import TaskWatch.Toml.Basic

/-!
# Building tables

A document builds one table from headers and key-value lines, and TOML fixes which of them may add
to which table:

* a header defines its table once; tables that stood only on the path of other headers may still be
  defined, tables that dotted keys made may not;
* a dotted key adds to tables that dotted keys made, never to one that a header names;
* a header in double brackets adds an element to an array of tables, and a path that leads to such
  an array means its last element;
* inline tables and static arrays are closed.
-/

namespace TaskWatch.Toml

/-- How a table came to be. -/
inductive Origin where
  /-- It stands on the path of a header. -/
  | path
  /-- A dotted key made it. -/
  | dotted
  /-- A header defines it. -/
  | header
  deriving DecidableEq

/-- A table under construction, and what its keys may hold. -/
inductive Node where
  | value (v : Value)
  | table (origin : Origin) (entries : List (String × Node))
  | tables (elements : List (List (String × Node)))

/-- A table under construction. -/
abbrev Table := List (String × Node)

namespace Table

def get? (table : Table) (key : String) : Option Node :=
  (table.find? (·.1 == key)).map (·.2)

/-- The table with a new value for a key, in its place or at the end. -/
def set (key : String) (node : Node) : Table → Table
  | [] => [(key, node)]
  | (k, v) :: rest => if k == key then (k, node) :: rest else (k, v) :: set key node rest

/-- The last element changed by `change`. -/
def changeLast (change : Table → Option Table) : List Table → Option (List Table)
  | [] => none
  | [last] => (change last).map ([·])
  | first :: rest => (changeLast change rest).map (first :: ·)

/-- The table with the one at the end of a header's path changed. -/
def atPath (change : Table → Option Table) : List String → Table → Option Table
  | [], table => change table
  | key :: path, table =>
    match get? table key with
    | none => do
      let new ← atPath change path []
      some (set key (.table .path new) table)
    | some (.value _) => none
    | some (.table origin entries) => do
      let changed ← atPath change path entries
      some (set key (.table origin changed) table)
    | some (.tables elements) => do
      let changed ← changeLast (atPath change path) elements
      some (set key (.tables changed) table)

/-- A header: the table that it defines, empty or with the tables that stood on its path. -/
def define (key : String) (table : Table) : Option Table :=
  match get? table key with
  | none => some (set key (.table .header []) table)
  | some (.table .path entries) => some (set key (.table .header entries) table)
  | _ => none

/-- A header in double brackets: one more element of an array of tables. -/
def addElement (key : String) (table : Table) : Option Table :=
  match get? table key with
  | none => some (set key (.tables [[]]) table)
  | some (.tables elements) => some (set key (.tables (elements ++ [[]])) table)
  | _ => none

/-- A value under a dotted key. `mayEnd` says whether the key may end in this table: the first
table of a plain key, or one that dotted keys made. -/
def addDotted (value : Value) (last : String) : List String → Bool → Table → Option Table
  | [], mayEnd, table =>
    if mayEnd && (get? table last).isNone then some (set last (.value value) table) else none
  | key :: path, _, table =>
    match get? table key with
    | none => do
      let new ← addDotted value last path true []
      some (set key (.table .dotted new) table)
    | some (.table origin entries) =>
      if origin = .header then none
      else do
        let changed ← addDotted value last path (origin = .dotted) entries
        some (set key (.table origin changed) table)
    | some (.tables elements) => do
      let changed ← changeLast (addDotted value last path false) elements
      some (set key (.tables changed) table)
    | some (.value _) => none

end Table

mutual

/-- The value that a finished node stands for. -/
def Node.finish : Node → Value
  | .value v => v
  | .table _ entries => .table (finishEntries entries)
  | .tables elements => .array (finishElements elements)

/-- The entries of a finished table. -/
def finishEntries : List (String × Node) → Entries
  | [] => []
  | (key, node) :: rest => (key, node.finish) :: finishEntries rest

/-- The tables of a finished array of tables. -/
def finishElements : List (List (String × Node)) → List Value
  | [] => []
  | element :: rest => .table (finishEntries element) :: finishElements rest

end

end TaskWatch.Toml
