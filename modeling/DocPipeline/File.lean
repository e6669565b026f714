import DocPipeline.Node
import DocPipeline.Text.Utf8

/-!
# Files

A file is the context that travels beside the tree: its contents, its path, a
board of messages, scratch data for plugins, and the last compiler output that
was neither text nor bytes.
-/

namespace DocPipeline

inductive Contents where
  | text (s : String)
  | bytes (bs : List UInt8)
  deriving DecidableEq

def Contents.toText : Contents → String
  | .text s => s
  | .bytes bs => Text.ofUtf8Lossy bs

/-! ## Compiler output -/

/-- A result of a kind that the processor knows nothing of. -/
inductive Foreign where
  | number (n : Nat)
  | text (s : String)
  deriving DecidableEq

inductive Output where
  | text (s : String)
  | bytes (bs : List UInt8)
  | tree (node : Node)
  | value (v : Value)
  | foreign (result : Foreign)
  deriving DecidableEq

namespace Output

def text? : Output → Option String
  | .text s => some s
  | _ => none

def tree? : Output → Option Node
  | .tree node => some node
  | _ => none

def foreign? : Output → Option Foreign
  | .foreign result => some result
  | _ => none

def contents? : Output → Option Contents
  | .text s => some (.text s)
  | .bytes bs => some (.bytes bs)
  | _ => none

end Output

/-! ## Messages -/

structure Message where
  reason : String
  origin : Option String
  fatal : Bool
  deriving DecidableEq, Repr

def Message.text (m : Message) : String :=
  (if m.fatal then "error: " else "warning: ") ++ m.reason ++
    match m.origin with
    | some origin => " (" ++ origin ++ ")"
    | none => ""

/-! ## Files -/

structure File where
  contents : Option Contents := none
  path : Option String := none
  data : Object := .nil
  messages : List Message := []
  result : Option Output := none
  deriving DecidableEq

namespace File

instance : Inhabited File := ⟨{}⟩

def ofText (s : String) : File := { contents := some (.text s) }

def ofBytes (bs : List UInt8) : File := { contents := some (.bytes bs) }

def text (file : File) : String := (file.contents.map Contents.toText).getD ""

def withPath (file : File) (path : String) : File := { file with path := some path }

def setData (file : File) (key : String) (v : Value) : File :=
  { file with data := file.data.insert key v }

theorem get?_setData (file : File) (key : String) (v : Value) (other : String) :
    (file.setData key v).data.get? other =
      if other = key then some v else file.data.get? other :=
  Fields.get?_insert ..

def post (file : File) (m : Message) : File := { file with messages := file.messages ++ [m] }

def warn (file : File) (reason : String) (origin : Option String) : File :=
  file.post ⟨reason, origin, false⟩

/-- Posts a fatal message, and gives it for use as an error. -/
def fail (file : File) (reason : String) (origin : Option String) : Message × File :=
  let m : Message := ⟨reason, origin, true⟩
  (m, file.post m)

def hasFailed (file : File) : Bool := file.messages.any (·.fatal)

/-- Text or bytes become the contents of the file, other output its result. -/
def accept (file : File) (output : Output) : File :=
  match output.contents? with
  | some contents => { file with contents := some contents }
  | none => { file with result := some output }

end File

end DocPipeline
