import RuleWatch.Double.Basic

/-!
# Settings

The values that a file of settings gives, in tables within tables. A table is made by a header of
its own, or on the way to another header, or by the dots of a key, or it is written as one value;
how it was made decides what may still be added to it. No key of a table is given twice.
-/

namespace RuleWatch.Toml

/-- How a table came about. -/
inductive Origin
  /-- Written as one value: it is finished. -/
  | value
  /-- Under a header of its own. -/
  | header
  /-- On the way to a header: it may still get a header of its own. -/
  | passed
  /-- By the dots of a key. -/
  | dots
  deriving DecidableEq, Repr

/-- A value. -/
inductive Value
  | string (value : String)
  | integer (value : Int)
  | float (value : Double)
  | boolean (value : Bool)
  /-- A date, a time of day, or both, as it is written. -/
  | moment (text : List Char)
  | array (items : List Value)
  | table (origin : Origin) (members : List (String × Value))
  /-- Tables under one header that is repeated. -/
  | tables (rows : List (List (String × Value)))
  deriving Repr, Inhabited

/-- The members of a table, in the order in which they came. -/
abbrev Table := List (String × Value)

namespace Table

/-- The table with another value under a key that it has. -/
def set (key : String) (value : Value) (table : Table) : Table :=
  table.map fun (k, v) ↦ if k = key then (k, value) else (k, v)

/-- What a change of the last row makes of rows. -/
def changeLast (change : Table → Option Table) : List Table → Option (List Table)
  | [] => none
  | [row] => (change row).map fun row ↦ [row]
  | row :: rows => (changeLast change rows).map fun rows ↦ row :: rows

/-- A value under a key with dots. The dots go into tables that have no header, and the last of
them into one that dots have made; a missing one is made. -/
def insert (key : String) (value : Value) : (path : List String) → Table → Option Table
  | [], table =>
    match table.lookup key with
    | none => some (table ++ [(key, value)])
    | some _ => none
  | part :: path, table =>
    match table.lookup part with
    | none => do
      let inner ← insert key value path []
      return table ++ [(part, .table .dots inner)]
    | some (.table origin inner) =>
      if origin = .dots ∨ (origin = .passed ∧ !path.isEmpty) then do
        let inner ← insert key value path inner
        return set part (.table origin inner) table
      else none
    | some (.tables rows) =>
      if path.isEmpty then none
      else do
        let rows ← changeLast (insert key value path) rows
        return set part (.tables rows) table
    | some _ => none

/-- A change of the table under a header. The tables on the way may be of any kind that is not
finished, and of rows the last one counts; a missing one is made. -/
def change (f : Table → Option Table) : (path : List String) → Table → Option Table
  | [], table => f table
  | part :: path, table =>
    match table.lookup part with
    | none => do
      let inner ← change f path []
      return table ++ [(part, .table .passed inner)]
    | some (.table origin inner) =>
      if origin = .value then none
      else do
        let inner ← change f path inner
        return set part (.table origin inner) table
    | some (.tables rows) => do
      let rows ← changeLast (change f path) rows
      return set part (.tables rows) table
    | some _ => none

/-- A header: the table under it must be new, or one that was only passed. -/
def openTable (key : String) (table : Table) : Option Table :=
  match table.lookup key with
  | none => some (table ++ [(key, .table .header [])])
  | some (.table .passed inner) => some (set key (.table .header inner) table)
  | some _ => none

/-- A repeated header: one more row. -/
def openRow (key : String) (table : Table) : Option Table :=
  match table.lookup key with
  | none => some (table ++ [(key, .tables [[]])])
  | some (.tables rows) => some (set key (.tables (rows ++ [[]])) table)
  | some _ => none

end Table

end RuleWatch.Toml
