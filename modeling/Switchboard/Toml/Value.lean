/-
TOML values, and the tables of a document while it is being read.

A `Value` is finished. A `Node` still remembers how a table came about, because that decides what may be added to it: a
table under a header is closed to dotted keys, a table made by dotted keys is closed to headers, and a table that a
header only passed through may still get its own header.
-/
import Switchboard.Text.Basic

namespace Switchboard.Toml

/-- A finished value. Floats carry nothing, as no setting is a float. -/
inductive Value where
  | string (text : Text)
  | integer (value : Int)
  | float
  | boolean (value : Bool)
  /-- a date, a time or both, in normal form -/
  | moment (text : Text)
  | array (items : List Value)
  | table (entries : List (Text × Value))

/-- how a table came about -/
inductive Origin where
  /-- by a header of its own, or as a row of an array of tables -/
  | header
  /-- by a header further down -/
  | implied
  /-- by dotted keys -/
  | dotted
  deriving DecidableEq, Repr

/-- what a key stands for while the document is being read -/
inductive Node where
  | value (value : Value)
  | table (origin : Origin) (entries : List (Text × Node))
  /-- an array of tables, the last row first -/
  | rows (rows : List (List (Text × Node)))

/-- keys of a table in the order of their first mention -/
abbrev Entries := List (Text × Node)

namespace Entries

/-- the entries with that of a key replaced, or added at the end -/
def alter (key : Text) (f : Option Node → Option Node) : Entries → Option Entries
  | [] => (f none).map fun node => [(key, node)]
  | (k, node) :: rest =>
    if k = key then (f (some node)).map fun node => (k, node) :: rest
    else (alter key f rest).map ((k, node) :: ·)

/-- Alters the table that a path leads to from a table with the given origin. Tables that are missing on the way are
made; of an array of tables the last row is entered. A path of dotted keys does not enter a table that has a header. -/
def alterAt (made : Origin) (f : Origin → Entries → Option Entries) :
    (path : List Text) → Origin → Entries → Option Entries
  | [], origin, entries => f origin entries
  | key :: path, _, entries =>
    alter key
      (fun
        | none => (alterAt made f path made []).map (.table made)
        | some (.value _) => none
        | some (.table origin inner) =>
          if made = .dotted ∧ origin = .header then none
          else (alterAt made f path origin inner).map (.table origin)
        | some (.rows []) => none
        | some (.rows (row :: rows)) => (alterAt made f path .header row).map fun row => .rows (row :: rows))
      entries

/-- Adds a value under a dotted key, given as the path before its last part and that part. The last part is new, and its
table was made by dotted keys too unless the path is empty. -/
def assign (path : List Text) (key : Text) (value : Value) (entries : Entries) : Option Entries :=
  alterAt .dotted
    (fun origin inner =>
      if origin = .dotted ↔ path = [] then none
      else alter key (fun
        | none => some (.value value)
        | some _ => none) inner)
    path .header entries

/-- opens the table of a header, which must not have been opened before -/
def openTable (path : List Text) (key : Text) (entries : Entries) : Option Entries :=
  alterAt .implied
    (fun _ inner => alter key (fun
      | none => some (.table .header [])
      | some (.table .implied own) => some (.table .header own)
      | some _ => none) inner)
    path .header entries

/-- opens a further row of an array of tables -/
def openRow (path : List Text) (key : Text) (entries : Entries) : Option Entries :=
  alterAt .implied
    (fun _ inner => alter key (fun
      | none => some (.rows [[]])
      | some (.rows rows) => some (.rows ([] :: rows))
      | some _ => none) inner)
    path .header entries

/-- adds a value under a dotted key of the table that was opened last -/
def assignIn (opened path : List Text) (key : Text) (value : Value) (entries : Entries) : Option Entries :=
  alterAt .implied (fun _ inner => assign path key value inner) opened .header entries

end Entries

mutual

def Node.finish : Node → Value
  | .value v => v
  | .table _ entries => .table (finishEntries entries)
  | .rows rows => .array (finishRows rows [])

def finishEntries : List (Text × Node) → List (Text × Value)
  | [] => []
  | (key, node) :: rest => (key, node.finish) :: finishEntries rest

/-- the finished rows of an array of tables, those of the list in reverse before `done` -/
def finishRows : List (List (Text × Node)) → List Value → List Value
  | [], done => done
  | row :: rows, done => finishRows rows (.table (finishEntries row) :: done)

end

end Switchboard.Toml
