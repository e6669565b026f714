import DocPipeline.Attach
import DocPipeline.TextTree
import DocPipeline.Text.Uppercase

/-!
# Built-in plugins

The plugins for plain text: a parser and a compiler for paragraphs, two
synchronous transformers, one that may suspend, and one that completes through
its handle.
-/

namespace DocPipeline

def Value.field? (v : Value) (key : String) : Option Value :=
  v.object?.bind (·.get? key)

namespace Builtin

/-- The field of the first option under a key. -/
def firstOption? (options : List Value) (key : String) : Option Value :=
  options.head?.bind (·.field? key)

def plugin (name : String) : Plugin := ⟨⟨"builtin", name⟩, name⟩

/-! ## Parser and compiler -/

/-- Whether to trim paragraphs: the first option decides, else the settings, else not. -/
def wantsTrim (options : List Value) (settings : Option Object) : Bool :=
  let fromOptions := (firstOption? options "trim").bind Value.bool?
  let fromSettings :=
    ((settings.bind (·.get? "text")).bind (·.field? "trim")).bind Value.bool?
  (fromOptions.or fromSettings).getD false

def textParser (trim : Bool) : Parser where
  parse document _ := .ok (Paragraph.parse document trim)

def textParse : Behaviour := fun _ _ options => do
  let data ← Attach.data
  Attach.setParser (textParser (wantsTrim options data.settings?))
  return .ok none

def textCompiler : Compiler where
  label := some "paragraphs"
  compile tree _ := .ok (.text (Paragraph.compile tree))

def textStringify : Behaviour := .compiler textCompiler

/-! ## Transformers -/

def editTree (f : Node → Node) : Transformer :=
  .sync fun d => .done (.ok { document := { d with tree := f d.tree } })

def uppercase : Transformer := editTree (·.mapText Text.upper)

def trim : Transformer := editTree Node.trimText

def wordCountKey : String := "wordCount"

def wordCount : Transformer := .async fun d =>
  .done (.ok { document :=
    { d with file := d.file.setData wordCountKey (.int d.tree.wordCount) } })

def remark (options : List Value) (tree : Node) : String :=
  ((firstOption? options "reason").bind Value.string?).getD
    (toString (Paragraph.count tree) ++ " paragraph(s)")

/-- Posts a warning with the reason given, or with the number of paragraphs. -/
def annotate (options : List Value) : Transformer := .callback fun d => do
  let file := d.file.warn (remark options d.tree) (some "annotate")
  let answer ← Completing.calling (Completing.complete (.ok { d with file }))
  return answer.mapError .error

/-! ## The list of all -/

def behaviours : List (String × Behaviour) := [
  ("text_parse", textParse),
  ("text_stringify", textStringify),
  ("uppercase", .transformer uppercase),
  ("trim", .transformer trim),
  ("word_count", .transformer wordCount),
  ("annotate", fun _ _ options => .done (.ok (some (annotate options))))
]

def names : List String := behaviours.map (·.1)

def book : Book where
  entries := behaviours.map fun (name, behaviour) => ((plugin name).identity, behaviour)

end Builtin

end DocPipeline
