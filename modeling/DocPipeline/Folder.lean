import DocPipeline.Files

/-!
# A folder in memory

Files below a working folder, and where a path leads from there.  A path is
followed part by part, so the first part that leads nowhere decides the fault.
Nothing is known of what lies around the working folder, except two devices.
-/

namespace DocPipeline

/-- Files by the parts of their path below the working folder; the first at a place counts. -/
structure Folder where
  files : List (List String × List UInt8) := []

namespace Folder

/-- A file replaces an earlier one at the same place. -/
def write (f : Folder) (path : String) (bytes : List UInt8) : Folder where
  files := ((Path.parts path).filter (· ≠ "."), bytes) :: f.files

def ofFiles (files : List (String × List UInt8)) : Folder :=
  files.foldl (fun f (path, bytes) => f.write path bytes) {}

def hasFolder (f : Folder) (at_ : List String) : Bool :=
  f.files.any fun (path, _) => at_.isPrefixOf path && path != at_

/-! ## Following a path -/

/-- Where a path has led so far. -/
inductive Place where
  /-- The working folder, or one below it. -/
  | below (parts : List String)
  | around
  | file (bytes : List UInt8)

/-- The longest name of a file or folder, in octets. -/
def nameLimit : Nat := 255

/-- Paths have fewer octets. -/
def pathLimit : Nat := 4096

def find (f : Folder) (name : String) : Place → Except ReadFault Place
  | .file _ => .error .notFolder
  | .around => .error .missing
  | .below parts =>
      let parts := parts ++ [name]
      match f.files.lookup parts with
      | some bytes => .ok (.file bytes)
      | none => if f.hasFolder parts then .ok (.below parts) else .error .missing

/-- Follows one part; an empty one, like a dot, asks for a folder and stays there. -/
def step (f : Folder) (place : Place) (part : String) : Except ReadFault Place :=
  match place, part with
  | .file _, _ => .error .notFolder
  | place, "" | place, "." => .ok place
  | .around, ".." | .below [], ".." => .ok .around
  | .below parts, ".." => .ok (.below parts.dropLast)
  | place, name =>
      if nameLimit < name.utf8ByteSize then .error .nameTooLong else f.find name place

def start (path : String) : Place :=
  if path.toList.head? = some '/' then .around else .below []

/-- The devices that are always there: one is empty, one gives the standard input. -/
def device? (input : List UInt8) : String → Option (List UInt8)
  | "/dev/null" => some []
  | "/dev/stdin" => some input
  | _ => none

def read (f : Folder) (path : String) : Except ReadFault (List UInt8) := do
  if '\x00' ∈ path.toList then throw .zeroInPath
  if path = "" then throw .missing
  if pathLimit ≤ path.utf8ByteSize then throw .nameTooLong
  match ← (path.splitOn "/").foldlM f.step (start path) with
  | .file bytes => return bytes
  | _ => throw .isFolder

def handle (f : Folder) (input : List UInt8) :
    (op : Files.Op) → Unit → Files.Answer op × Unit
  | .read path, _ =>
      match device? input path with
      | some bytes => (.ok bytes, ())
      | none => (f.read path, ())
  | .standardInput, _ => (.ok input, ())

end Folder

end DocPipeline
