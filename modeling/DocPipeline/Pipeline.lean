import DocPipeline.Configuration

/-!
# Pipelines

The sealed configuration of a frozen processor: what it parses with, the
transformers in the order of their attachers, and what it compiles with.
-/

namespace DocPipeline

/-- Pipelines sealed apart from each other have different serial numbers. -/
structure Pipeline where
  serial : Nat
  registry : Registry
  parser : Option Parser
  compiler : Option Compiler
  transformers : List Bound

def Configuration.seal (c : Configuration) (serial : Nat) : Pipeline where
  serial
  registry := c.registry
  parser := c.parser
  compiler := c.compiler
  transformers := c.transformers

/-- The configuration with the same attachers and slots whose attachers are all due. -/
def Configuration.reopen (c : Configuration) : Configuration where
  registry := c.registry
  parser := c.parser
  compiler := c.compiler

namespace Pipeline

def reopen (p : Pipeline) : Configuration where
  registry := p.registry
  parser := p.parser
  compiler := p.compiler

/-- Parses the text of a file; without a parser the tree is an empty root. -/
def parse (p : Pipeline) (file : File) : Except ProcessorError Node :=
  match p.parser with
  | some parser => (parser.parse file.text file).mapError .parse
  | none => .ok .root

/-- Compiles a tree; without a compiler the tree is the output. -/
def stringify (p : Pipeline) (tree : Node) (file : File) : Except ProcessorError Output :=
  match p.compiler with
  | some compiler => (compiler.compile tree file).mapError .compile
  | none => .ok (.tree tree)

/-- Compiles any value; only a compiler insists on a node. -/
def stringifyValue (p : Pipeline) (v : Value) (file : File) :
    Except ProcessorError Output := do
  match p.compiler with
  | none => return .value v
  | some _ => p.stringify (← Node.require v) file

def finish (p : Pipeline) (d : Document) : Except ProcessorError File := do
  return d.file.accept (← p.stringify d.tree d.file)

end Pipeline

end DocPipeline
