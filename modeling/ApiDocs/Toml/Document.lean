import ApiDocs.Value

/-! TOML documents while they are read. A document is a tree of tables that headers and dotted keys open and fill; what
    may be opened again depends on how it was opened first, so a table keeps the section in which it was declared.
    Every operation refuses what would overwrite something, and a finished tree is a plain value. -/

namespace ApiDocs.Toml

/-- A node of a document. -/
inductive Node
  /-- A value that was written out; nothing can be added to it. -/
  | value (value : Value)
  /-- A table, and the section that declared it. A table that only stands on the way to another one is not declared. -/
  | table (declared : Option Nat) (entries : List (Text × Node))
  /-- A list of tables, of which the last one is open. -/
  | tables (closed : List Value) (entries : List (Text × Node))

/-- The entries of a table, in the order of their keys. -/
abbrev Entries := List (Text × Node)

mutual

/-- The value of a node. -/
def Node.toValue : Node → Value
  | .value value => value
  | .table _ entries => .table (entryValues entries)
  | .tables closed entries => .list (closed ++ [.table (entryValues entries)])

/-- The values of entries. -/
def entryValues : List (Text × Node) → List (Text × Value)
  | [] => []
  | (key, node) :: rest => (key, node.toValue) :: entryValues rest

end

namespace Entries

/-- Changes the node of a key, or makes one, if `change` allows it. -/
def alter (change : Option Node → Option Node) (key : Text) : Entries → Option Entries
  | [] => (change none).map fun node => [(key, node)]
  | (k, node) :: rest =>
    if k = key then (change (some node)).map fun node => (k, node) :: rest
    else (alter change key rest).map fun rest => (k, node) :: rest

/-- Changes the entries of the table that a header leads to. On the way, tables are made where there are none, and a
    list of tables stands for its last one. -/
def inside (change : Entries → Option Entries) : List Text → Entries → Option Entries
  | [], entries => change entries
  | key :: path, entries =>
    alter (fun
      | none => (inside change path []).map (.table none)
      | some (.table declared inner) => (inside change path inner).map (.table declared)
      | some (.tables closed inner) => (inside change path inner).map (.tables closed)
      | some (.value _) => none) key entries

/-- Changes the node that a header names. -/
def atHeader (change : Option Node → Option Node) (path : List Text) (entries : Entries) : Option Entries :=
  match path.getLast? with
  | none => none
  | some key => inside (alter change key) path.dropLast entries

/-- Declares the table that a header names. A table is declared once. -/
def declare (current : Nat) (path : List Text) (entries : Entries) : Option Entries :=
  atHeader (fun
    | none => some (.table (some current) [])
    | some (.table none inner) => some (.table (some current) inner)
    | some _ => none) path entries

/-- Adds a table to the list of tables that a header names. -/
def append (path : List Text) (entries : Entries) : Option Entries :=
  atHeader (fun
    | none => some (.tables [] [])
    | some (.tables closed last) => some (.tables (closed ++ [.table (entryValues last)]) [])
    | some _ => none) path entries

/-- Gives a dotted key its value. The tables on the way belong to the current section, and may not have been declared in
    another one. -/
def assign (current : Nat) (value : Value) : List Text → Entries → Option Entries
  | [], _ => none
  | [key], entries => alter (fun node => if node.isNone then some (.value value) else none) key entries
  | key :: path, entries =>
    alter (fun
      | none => (assign current value path []).map (.table (some current))
      | some (.table declared inner) =>
        if declared = none ∨ declared = some current then
          (assign current value path inner).map (.table (some current))
        else none
      | some _ => none) key entries

end Entries
end ApiDocs.Toml
