import DocPipeline.CommandLine

/-!
# The executable

Runs the command line on the file system and the standard streams.
-/

namespace DocPipeline

def faultOf : IO.Error → ReadFault
  | .noFileOrDirectory .. => .missing
  | e => .other (toString e)

def perform : (op : Files.Op) → IO (Files.Answer op)
  | .read path => do
      match ← (IO.FS.readBinFile path).toBaseIO with
      | .ok bytes => return .ok bytes.toList
      | .error e => return .error (faultOf e)
  | .standardInput => do
      match ← (← IO.getStdin).readBinToEnd.toBaseIO with
      | .ok bytes => return .ok bytes.toList
      | .error e => return .error (faultOf e)

def runFiles {α : Type} : Program Files α → IO α
  | .done a => return a
  | .perform op next => do runFiles (next (← perform op))

end DocPipeline

open DocPipeline in
def main (args : List String) : IO UInt32 := do
  let outcome ← runFiles (CommandLine.run Catalog.builtin Builtin.book args)
  (← IO.getStdout).putStr outcome.output
  (← IO.getStderr).putStr outcome.errors
  return UInt32.ofNat outcome.code
