import DocPipeline.Yaml.Layout
import DocPipeline.Yaml.Node
import DocPipeline.Yaml.Scalar

/-!
# YAML documents

A text holds at most one document.  Reading data from it follows aliases; how
often in all is limited, and so is how deep collections nest.
-/

namespace DocPipeline.Yaml

/-! ## The document of a text -/

structure Document where
  root : Node
  deriving Inhabited

def depthLimit : Nat := 128

def isKnownVersion (major minor : Nat) : Bool := major == 1 && (minor == 1 || minor == 2)

/-- The directives before a document: at most one version, and different shorthands. -/
def directives (hasVersion : Bool) (shorthands : Shorthands) :
    List Mark → Option (Shorthands × List Mark)
  | .token (.version major minor) :: marks =>
      if !hasVersion && isKnownVersion major minor then directives true shorthands marks
      else none
  | .token (.shorthand handle lead) :: marks =>
      if (shorthands.lookup handle).isSome then none
      else directives hasVersion ((handle, lead) :: shorthands) marks
  | marks => some (shorthands, marks)

def isDirective : Mark → Bool
  | .token (.version ..) => true
  | .token (.shorthand ..) => true
  | _ => false

def rootAfterMark (shorthands : Shorthands) (marks : List Mark) :
    Option (Node × List Mark) :=
  match marks with
  | [] => some (.empty {}, [])
  | mark :: marks =>
      if isDirective mark || isNext [.documentStart, .documentEnd] (mark :: marks) then
        some (.empty {}, mark :: marks)
      else node shorthands depthLimit .block (mark :: marks)

def rootNode (marks : List Mark) : Option (Node × List Mark) := do
  match marks with
  | [] => return (.empty {}, [])
  | mark :: marks =>
      if isDirective mark || isNext [.documentStart] (mark :: marks) then
        let (own, marks) ← directives false [] (mark :: marks)
        let (_, marks) ← expect [.documentStart] marks
        rootAfterMark (own ++ standardShorthands) marks
      else node standardShorthands depthLimit .block (mark :: marks)

/-- Nothing may follow a document but marks of its end. -/
def Document.ofText? (text : String) : Option Document := do
  let marks ← numberAnchors [] (← tokens? text)
  let (root, rest) ← rootNode marks
  if (repeated (expect [.documentEnd]) rest).2.isEmpty then return ⟨root⟩ else none

/-! ## Aliases -/

mutual

/-- The nodes with anchors, in order. -/
def Node.anchored : Node → List (Nat × Node)
  | .alias _ => []
  | .scalar p plain text => (p.anchor.map (·, .scalar p plain text)).toList
  | .sequence p items =>
      (p.anchor.map (·, .sequence p items)).toList ++ Node.anchoredIn items
  | .mapping p entries =>
      (p.anchor.map (·, .mapping p entries)).toList ++ Node.anchoredInEntries entries

def Node.anchoredIn : List Node → List (Nat × Node)
  | [] => []
  | item :: items => item.anchored ++ Node.anchoredIn items

def Node.anchoredInEntries : List (Node × Node) → List (Nat × Node)
  | [] => []
  | (key, value) :: entries => key.anchored ++ value.anchored ++ Node.anchoredInEntries entries

end

mutual

/-- Scalars and aliases count once, collections for their start and their end. -/
def Node.weight : Node → Nat
  | .alias _ => 1
  | .scalar .. => 1
  | .sequence _ items => 2 + Node.weightOf items
  | .mapping _ entries => 2 + Node.weightOfEntries entries

def Node.weightOf : List Node → Nat
  | [] => 0
  | item :: items => item.weight + Node.weightOf items

def Node.weightOfEntries : List (Node × Node) → Nat
  | [] => 0
  | (key, value) :: entries => key.weight + value.weight + Node.weightOfEntries entries

end

/-- The node with an anchor; of several the last. -/
def Document.anchored? (d : Document) (anchor : Nat) : Option Node :=
  d.root.anchored.reverse.lookup anchor

/-! ## Reading data -/

/-- The state is how many more aliases may be followed. -/
abbrev Reading := StateT Nat Option

def Document.aliasLimit (d : Document) : Nat := 100 * d.root.weight

namespace Document

/-- The node itself, or the one that an alias stands for. -/
def follow (d : Document) : Node → Reading Node
  | .alias anchor => do
      match ← get with
      | 0 => failure
      | left + 1 =>
          set left
          (d.anchored? anchor : Option Node)
  | node => return node

/-- Whether nothing stands where a node is expected. -/
def isAbsent : Node → Bool
  | .scalar _ plain text => plain && text == ""
  | _ => false

def textOf (d : Document) (node : Node) : Reading String := do
  match ← d.follow node with
  | .scalar _ _ text => return text
  | _ => failure

def itemsOf (d : Document) (node : Node) : Reading (List Node) := do
  match ← d.follow node with
  | .sequence _ items => return items
  | node => if isAbsent node then return [] else failure

def entriesOf (d : Document) (node : Node) : Reading (List (Node × Node)) := do
  match ← d.follow node with
  | .mapping _ entries => return entries
  | node => if isAbsent node then return [] else failure

/-- How the keys of mappings are taken: for what they stand for, or for their text. -/
inductive Keys where
  | resolved
  | verbatim
  deriving DecidableEq

def keyOf (d : Document) (keys : Keys) (resolve : Node → Reading Datum) (key : Node) :
    Reading Datum :=
  match keys with
  | .resolved => resolve key
  | .verbatim => Datum.text <$> d.textOf key

def isForeign (p : Properties) : Bool := p.tag.any isForeignTag

/-- The datum of a node whose collections nest at most `depth` deep, aliases followed. -/
def datumOf (d : Document) (keys : Keys) : (depth : Nat) → Node → Reading Datum
  | depth, node => do
      match depth, ← d.follow node with
      | _, .scalar p plain text => (scalarDatum p.tag plain text : Option Datum)
      | depth + 1, .sequence p items =>
          if isForeign p then failure
          return .list (← items.mapM (d.datumOf keys depth))
      | depth + 1, .mapping p entries =>
          if isForeign p then failure
          return .table (← entries.mapM fun e => do
            let key ← d.keyOf keys (d.datumOf keys depth) e.1
            return (key, ← d.datumOf keys depth e.2))
      | _, _ => failure

def read? {α : Type} (d : Document) (reading : Reading α) : Option α :=
  (reading.run d.aliasLimit).map (·.1)

end Document

end DocPipeline.Yaml
