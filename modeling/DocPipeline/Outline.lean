import DocPipeline.Slot
import DocPipeline.Text.Quoted
import DocPipeline.Transformer

/-!
# Outlines

One-line descriptions of things that have no text of their own: what kind of
thing it is, and the few fields that tell it from others.
-/

namespace DocPipeline

/-- A kind with its fields between braces; `more` says that there are further ones. -/
def outline (kind : String) (fields : List (String × String)) (more : Bool) : String :=
  let shown := fields.map fun (key, text) => key ++ ": " ++ text
  let shown := if more then shown ++ [".."] else shown
  kind ++ " \x7b " ++ ", ".intercalate shown ++ " \x7d"

def functionLabel : String := "fn"

def Parser.outline (parser : Parser) : String :=
  DocPipeline.outline "Parser"
    [("name", Text.quoted (parser.label.getD functionLabel))] false

def Compiler.outline (compiler : Compiler) : String :=
  DocPipeline.outline "Compiler"
    [("name", Text.quoted (compiler.label.getD functionLabel))] false

def Transformer.outline (t : Transformer) : String :=
  DocPipeline.outline "Transformer" [("style", Text.quoted t.style)] false

def HandleView.outline (h : HandleView) : String :=
  DocPipeline.outline "Next" [("index", toString h.index),
    ("plugin", Text.quoted h.plugin), ("calls", toString h.calls)] false

def attachOutline (index : Nat) (plugin : String) : String :=
  DocPipeline.outline "Attach"
    [("index", toString index), ("plugin", Text.quoted plugin)] true

def Output.outline? : Output → Option String
  | .text s => some ("Text(" ++ Text.quoted s ++ ")")
  | .bytes bs => some ("Bytes(" ++ toString bs.length ++ ")")
  | .foreign _ => some "Opaque(..)"
  | .tree _ | .value _ => none

end DocPipeline
