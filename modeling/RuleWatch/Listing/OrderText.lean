import RuleWatch.Listing.Order
import RuleWatch.Store.Failure
import RuleWatch.Text.Blank

/-!
# Orders by name

The order that is asked for with the name of a column and the name of a direction. What is absent or
blank is the standard one: the column that the rows are known by, from the least to the greatest.
-/

namespace RuleWatch.Listing

/-- A text without the blanks around it, unless nothing is left. -/
def presentText (s : Option String) : Option String :=
  (s.map Text.trim).filter fun s ↦ !s.isEmpty

namespace Order

variable {φ ρ : Type} [Column φ ρ]

/-- The column of a name. -/
def readField (φ : Type) {ρ : Type} [Column φ ρ] (field : Option String) : Except String φ :=
  match presentText field with
  | none => .ok Column.standard
  | some name => match Column.ofName? name with
    | some field => .ok field
    | none => .error ("unknown " ++ Column.rows φ ++ " sort field: " ++ name)

/-- The direction of a name. -/
def readDirection (direction : Option String) : Except String Direction :=
  match presentText direction with
  | none => .ok .ascending
  | some name => match Direction.ofName? name with
    | some direction => .ok direction
    | none => .error ("unknown sort order: " ++ name)

/-- The order of the names of a column and of a direction. The column is looked at first. -/
def read (φ : Type) {ρ : Type} [Column φ ρ] (field direction : Option String) :
    Except Store.Failure (Order φ) := do
  let field ← (readField φ field).mapError .invalidOrder
  let direction ← (readDirection direction).mapError .invalidOrder
  return ⟨field, direction⟩

end Order

end RuleWatch.Listing
