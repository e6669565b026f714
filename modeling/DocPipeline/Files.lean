import DocPipeline.Program
import DocPipeline.Text.Utf8

/-!
# Reading files

Programs that read files do so through this interface, so that what they do is
the same on a disk and on a folder in memory.
-/

namespace DocPipeline

inductive ReadFault where
  | missing
  | isFolder
  | notFolder
  | nameTooLong
  | zeroInPath
  | notUtf8
  | other (text : String)
  deriving DecidableEq, Repr

def ReadFault.text : ReadFault → String
  | .missing => "No such file or directory (os error 2)"
  | .isFolder => "Is a directory (os error 21)"
  | .notFolder => "Not a directory (os error 20)"
  | .nameTooLong => "File name too long (os error 36)"
  | .zeroInPath => "file name contained an unexpected NUL byte"
  | .notUtf8 => "stream did not contain valid UTF-8"
  | .other text => text

inductive Files.Op where
  | read (path : String)
  | standardInput

def Files : Interface where
  Op := Files.Op
  Answer _ := Except ReadFault (List UInt8)

namespace Files

def decode (bytes : Except ReadFault (List UInt8)) : Except ReadFault String := do
  match Text.ofUtf8? (← bytes) with
  | some text => return text
  | none => throw .notUtf8

def readText (path : String) : Program Files (Except ReadFault String) :=
  decode <$> Program.op (I := Files) (.read path)

def standardText : Program Files (Except ReadFault String) :=
  decode <$> Program.op (I := Files) .standardInput

end Files

/-! ## Paths -/

namespace Path

/--
The parts of a path between slashes, without empty ones and without single
dots, except a single dot at the very front.
-/
def parts (path : String) : List String :=
  match (path.splitOn "/").filter (· ≠ "") with
  | [] => []
  | first :: others =>
      let kept := others.filter (· ≠ ".")
      if first = "." ∧ path.toList.head? = some '/' then kept else first :: kept

def fileName? (path : String) : Option String :=
  match (parts path).getLast? with
  | some "." | some ".." | none => none
  | some name => some name

/-- What follows the last dot of the file name, if something comes before it. -/
def extension? (path : String) : Option String := do
  let name ← fileName? path
  let reversed := name.toList.reverse
  match reversed.dropWhile (· ≠ '.') with
  | _ :: _ :: _ => some (String.ofList (reversed.takeWhile (· ≠ '.')).reverse)
  | _ => none

end Path

end DocPipeline
