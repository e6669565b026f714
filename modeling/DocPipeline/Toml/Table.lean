import DocPipeline.Datum
import DocPipeline.Toml.Text

/-!
# TOML tables under construction

A document may come back to a table that it has begun, but only in certain ways,
which depend on how the table came to be.  Of an array of tables only the last
one can still grow.
-/

namespace DocPipeline.Toml

/-- How a table came to be. -/
inductive Origin where
  /-- By a header of its own. -/
  | header
  /-- On the way to a header below it. -/
  | implied
  /-- By a key with dots. -/
  | dotted
  deriving DecidableEq, Repr

inductive Item where
  | value (d : Datum)
  | table (origin : Origin) (entries : List (String × Item))
  | tables (finished : List Datum) (growing : List (String × Item))

abbrev Entries := List (String × Item)

/-! ## What a table states -/

mutual

def Item.toDatum : Item → Datum
  | .value d => d
  | .table _ entries => .table (Item.toData entries)
  | .tables finished growing => .list (finished ++ [.table (Item.toData growing)])

def Item.toData : List (String × Item) → List (Datum × Datum)
  | [] => []
  | (key, item) :: entries => (.text key, item.toDatum) :: Item.toData entries

end

def Entries.toDatum (entries : Entries) : Datum := .table (Item.toData entries)

namespace Entries

/-- Changes what is stored under a key, if `change` agrees. -/
def alter (key : String) (change : Option Item → Option Item) : Entries → Option Entries
  | [] => do return [(key, ← change none)]
  | (k, item) :: entries => do
      if k = key then return (k, ← change (some item)) :: entries
      else return (k, item) :: (← alter key change entries)

/-! ## Keys -/

def store (d : Datum) : Option Item → Option Item
  | none => some (.value d)
  | some _ => none

/-- Whether a key with dots may lead through a table, or end in it. -/
def admits (isEnd : Bool) : Origin → Bool
  | .header => false
  | .implied => !isEnd
  | .dotted => true

/-- Stores a datum under a key; no key may be stored twice. -/
def insert (d : Datum) : Key → Entries → Option Entries
  | [], _ => none
  | [key], entries => alter key (store d) entries
  | key :: next :: rest, entries =>
      alter key (fun
        | none => (insert d (next :: rest) []).map (.table .dotted)
        | some (.value _) => none
        | some (.table origin inner) =>
            if admits rest.isEmpty origin then
              (insert d (next :: rest) inner).map (.table origin)
            else none
        | some (.tables finished growing) =>
            if rest.isEmpty then none
            else (insert d (next :: rest) growing).map (.tables finished)) entries

/-! ## Headers -/

/-- Changes what the path of a header leads to; tables missing on the way are implied. -/
def follow (change : Option Item → Option Item) : Key → Entries → Option Entries
  | [], _ => none
  | [key], entries => alter key change entries
  | key :: next :: rest, entries =>
      alter key (fun
        | none => (follow change (next :: rest) []).map (.table .implied)
        | some (.value _) => none
        | some (.table origin inner) =>
            (follow change (next :: rest) inner).map (.table origin)
        | some (.tables finished growing) =>
            (follow change (next :: rest) growing).map (.tables finished)) entries

/-- Begins a table; one that was only implied so far keeps its entries. -/
def beginTable : Option Item → Option Item
  | none => some (.table .header [])
  | some (.table .implied entries) => some (.table .header entries)
  | _ => none

/-- Begins a further table of an array. -/
def beginElement : Option Item → Option Item
  | none => some (.tables [] [])
  | some (.tables finished growing) => some (.tables (finished ++ [toDatum growing]) [])
  | _ => none

def within (change : Entries → Option Entries) : Option Item → Option Item
  | some (.table origin entries) => (change entries).map (.table origin)
  | some (.tables finished growing) => (change growing).map (.tables finished)
  | _ => none

/-- Stores a datum in the table under a header; without header that is the whole document. -/
def insertUnder (header key : Key) (d : Datum) (entries : Entries) : Option Entries :=
  match header with
  | [] => entries.insert d key
  | header => follow (within (insert d key)) header entries

end Entries

end DocPipeline.Toml
