import DexTrade.Toml.Value
/-!
# Building tables

A document fills tables in three ways: under a header, along a dotted key, and as elements of an array
of tables. How a table came about decides what may still be added to it: one that a header named is
closed to dotted keys from outside and to a second header, one that a dotted key made is closed to
headers, and one that is only part of a longer header may still get a header of its own.
-/
namespace DexTrade.Toml

/-- How a table came about. -/
inductive Origin where
  /-- Named by a header, or the top of the document. -/
  | header
  /-- On the way of a longer header. -/
  | onTheWay
  /-- On the way of a dotted key. -/
  | dotted
  deriving DecidableEq

/-- A table in the making. -/
inductive Node where
  | value (v : Value)
  | table (origin : Origin) (entries : List (String × Node))
  | tables (items : List (List (String × Node)))

abbrev Entries := List (String × Node)

namespace Entries

/-- Replaces the entry of a key, or adds one behind the others. -/
def put (key : String) (node : Node) : Entries → Entries
  | [] => [(key, node)]
  | (k, n) :: rest => if k = key then (k, node) :: rest else (k, n) :: put key node rest

/-- Changes the table at the end of a path below a table of the given origin, and the tables on the
way with it. Tables that are missing are made with the origin `made`. A dotted path does not lead
through a table with a header of its own; of an array of tables the last one is meant. -/
def descend (made : Origin) (change : Origin → Entries → Option Entries) :
    Origin → Entries → List String → Option Entries
  | origin, entries, [] => change origin entries
  | _, entries, key :: path =>
    match entries.lookup key with
    | none => do
      let child ← descend made change made [] path
      return entries.put key (.table made child)
    | some (.value _) => none
    | some (.table origin child) =>
      if made = .dotted ∧ origin = .header then none
      else do
        let child ← descend made change origin child path
        return entries.put key (.table origin child)
    | some (.tables items) =>
      match items.getLast? with
      | none => none
      | some last => do
        let last ← descend made change .header last path
        return entries.put key (.tables (items.dropLast ++ [last]))

/-- Adds a value under a dotted key, given as the path to its table and its last part. -/
def insert (entries : Entries) (path : List String) (key : String) (v : Value) : Option Entries :=
  let change (origin : Origin) (table : Entries) : Option Entries :=
    if (path.isEmpty ∨ origin = .dotted) ∧ (table.lookup key).isNone then
      some (table.put key (.value v))
    else
      none
  descend .dotted change .header entries path

/-- Opens the table that a header names. -/
def openTable (entries : Entries) (path : List String) (key : String) : Option Entries :=
  let change (_ : Origin) (parent : Entries) : Option Entries :=
    match parent.lookup key with
    | none => some (parent.put key (.table .header []))
    | some (.table .onTheWay child) => some (parent.put key (.table .header child))
    | some _ => none
  descend .onTheWay change .header entries path

/-- Adds one more element to the array of tables that a header names. -/
def appendTable (entries : Entries) (path : List String) (key : String) : Option Entries :=
  let change (_ : Origin) (parent : Entries) : Option Entries :=
    match parent.lookup key with
    | none => some (parent.put key (.tables [[]]))
    | some (.tables items) => some (parent.put key (.tables (items ++ [[]])))
    | some _ => none
  descend .onTheWay change .header entries path

/-- Adds a value under a dotted key below the table that the last header opened. -/
def insertBelow (entries : Entries) (header path : List String) (key : String) (v : Value) :
    Option Entries :=
  descend .onTheWay (fun _ table => insert table path key v) .header entries header

end Entries

mutual

/-- The finished value of a node. -/
def Node.finish : Node → Value
  | .value v => v
  | .table _ entries => .table (finishEntries entries)
  | .tables items => .array (finishTables items)

def finishEntries : List (String × Node) → List (String × Value)
  | [] => []
  | (key, node) :: rest => (key, node.finish) :: finishEntries rest

def finishTables : List (List (String × Node)) → List Value
  | [] => []
  | entries :: rest => .table (finishEntries entries) :: finishTables rest

end

end DexTrade.Toml
