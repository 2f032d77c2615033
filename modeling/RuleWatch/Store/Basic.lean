import RuleWatch.Listing.OrderText
import RuleWatch.Listing.Page
import RuleWatch.Listing.Pattern

/-!
# Tables

The rows of one kind in the order in which they came. Each has an id of its own, and an id is never
given twice, not even after its row has gone.
-/

namespace RuleWatch.Store

open Listing

/-- Rows, and the last id that was given to one. -/
structure Table (ρ : Type) where
  rows : List ρ
  lastId : Int
  deriving DecidableEq, Repr, Inhabited

namespace Table

variable {φ ρ : Type}

/-- No rows, and no id given yet. -/
def empty : Table ρ := ⟨[], 0⟩

/-- The id of the next row. -/
def nextId (table : Table ρ) : Int :=
  table.lastId + 1

/-- The table with one more row, which has taken the next id. -/
def push (table : Table ρ) (row : ρ) : Table ρ :=
  ⟨table.rows ++ [row], table.nextId⟩

/-- The row with an id. -/
def find? (φ : Type) [Column φ ρ] (table : Table ρ) (id : Int) : Option ρ :=
  table.rows.find? fun row ↦ Column.id φ row == id

/-- The table without the row that has this id. -/
def erase (φ : Type) [Column φ ρ] (table : Table ρ) (id : Int) : Table ρ :=
  { table with rows := table.rows.filter fun row ↦ Column.id φ row != id }

/-- The table with another row in place of the one that has its id. -/
def replace (φ : Type) [Column φ ρ] (table : Table ρ) (row : ρ) : Table ρ :=
  { table with
    rows := table.rows.map fun r ↦ if Column.id φ r == Column.id φ row then row else r }

end Table

/-- The rows whose name contains a filter; no filter, or an empty one, lets all rows pass. A filter
that is too long is only noticed when there is a row to look at. -/
def matching {ρ : Type} (name : ρ → String) (filter : Option String) (rows : List ρ) :
    Except Failure (List ρ) :=
  match filter.filter fun needle ↦ !needle.isEmpty with
  | none => .ok rows
  | some needle =>
    if Pattern.maxBytes < Text.utf8Length (Pattern.containing needle) && !rows.isEmpty then
      .error (.database "LIKE or GLOB pattern too complex")
    else .ok (rows.filter fun row ↦ Pattern.contains needle (name row))

/-- One page of the rows that match, in order, and the number of all rows that match. -/
def list {φ ρ : Type} [Column φ ρ] (name : ρ → String) (filter : Option String) (order : Order φ)
    (page : Page) (rows : List ρ) : Except Failure (List ρ × Nat) :=
  match page.offset? with
  | none => .error (.invalidPage page.outOfRangeMessage)
  | some offset => do
    let found ← matching name filter rows
    return (page.window offset (order.sort found), found.length)

end RuleWatch.Store

namespace RuleWatch

/-- All that is kept: rules, and analysis results. -/
structure Store where
  rules : Store.Table Rule
  analyses : Store.Table Analysis
  deriving DecidableEq, Repr, Inhabited

/-- A store that keeps nothing yet. -/
def Store.empty : Store := ⟨.empty, .empty⟩

end RuleWatch
