import DocPipeline.Toml.Term

/-!
# TOML documents

A document is a sequence of statements, each ended by the end of its line:
headers that begin a table, and keyed terms that go into the table begun last.
-/

namespace DocPipeline.Toml

open Reader

inductive Statement where
  | entry (key : Key) (d : Datum)
  /-- A header in single brackets. -/
  | table (key : Key)
  /-- A header in double brackets. -/
  | element (key : Key)

/-! ## Reading statements -/

def header (opening closing : String) : Reader Key := fun cs => do
  let (_, cs) ← word opening cs
  let (path, cs) ← key cs
  let (_, cs) ← word closing cs
  return (path, cs)

def statement : Reader Statement
  | '[' :: '[' :: cs => (header "[[" "]]").map .element ('[' :: '[' :: cs)
  | '[' :: cs => (header "[" "]").map .table ('[' :: cs)
  | cs => (keyedTerm (term (depthLimit - 1))).map (fun e => .entry e.1 e.2) cs

/-- A line, which need not hold a statement; the end of the text is no line. -/
def line : Reader (Option Statement) := fun cs =>
  match blanks cs with
  | [] => none
  | c :: cs =>
      if c == '#' || c == '\n' || c == '\r' then lineEnd.map (fun _ => none) (c :: cs)
      else do
        let (s, cs) ← statement (c :: cs)
        let (_, cs) ← lineEnd cs
        return (some s, cs)

/-- A byte order mark may stand at the very front. -/
def dropMark : List Char → List Char
  | '\ufeff' :: cs => cs
  | cs => cs

def statements? (text : String) : Option (List Statement) :=
  let (found, rest) := many line (dropMark text.toList)
  if blanks rest = [] then some (found.filterMap id) else none

/-! ## Building the document -/

structure Draft where
  entries : Entries := []
  header : Key := []

def Draft.take (d : Draft) : Statement → Option Draft
  | .entry key v => do
      return { d with entries := ← Entries.insertUnder d.header key v d.entries }
  | .table key => do return ⟨← Entries.follow Entries.beginTable key d.entries, key⟩
  | .element key => do return ⟨← Entries.follow Entries.beginElement key d.entries, key⟩

def read? (text : String) : Option Datum := do
  let found ← statements? text
  let d ← found.foldlM Draft.take {}
  return d.entries.toDatum

end DocPipeline.Toml
