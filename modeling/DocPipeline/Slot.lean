import DocPipeline.Error

/-!
# Parser and compiler slots

A collaborator in a slot is either a plain function, or a type of its own whose
label then tells which.
-/

namespace DocPipeline

structure Parser where
  label : Option String := none
  parse : String → File → Except Cause Node

structure Compiler where
  label : Option String := none
  compile : Node → File → Except Cause Output

end DocPipeline
