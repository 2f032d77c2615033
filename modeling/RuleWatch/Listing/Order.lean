import RuleWatch.Analysis
import RuleWatch.Rule.Basic

/-!
# Orders of listings

The columns that a listing can be ordered by, in either direction. Rows that agree in the column
are in the order of their ids, whatever the direction.
-/

namespace RuleWatch.Listing

/-- From the least to the greatest, or the other way round. -/
inductive Direction
  | ascending
  | descending
  deriving DecidableEq, Repr, Inhabited

/-- A column and a direction. -/
structure Order (φ : Type) where
  field : φ
  direction : Direction
  deriving DecidableEq, Repr, Inhabited

/-- What a column holds. Texts are in the order of their characters' code points, which is that of
their bytes. -/
inductive Cell
  | int (value : Int)
  | text (value : String)
  deriving DecidableEq, Repr

namespace Cell

/-- The first cell comes before the second. Integers come before texts. -/
def lt : Cell → Cell → Bool
  | .int a, .int b => a < b
  | .text a, .text b => a < b
  | .int _, .text _ => true
  | .text _, .int _ => false

end Cell

/-- A column of some kind of row: how it is named, and what a row has in it. -/
class Column (φ : Type) (ρ : outParam Type) where
  /-- What the rows are, for messages. -/
  rows : String
  ofName? : String → Option φ
  standard : φ
  cell : φ → ρ → Cell
  id : ρ → Int

/-- The columns of rules. -/
inductive RuleField
  | id | name | expression | severity | duration | createdAt | updatedAt
  deriving DecidableEq, Repr

/-- The columns of analysis results. -/
inductive AnalysisField
  | id | ruleId | ruleName | status | count | createdAt | updatedAt
  deriving DecidableEq, Repr

namespace RuleField

/-- The times of creation and change have two names each. -/
def ofName? : String → Option RuleField
  | "id" => some .id
  | "name" => some .name
  | "expression" => some .expression
  | "severity" => some .severity
  | "duration" => some .duration
  | "created_at" | "create_time" => some .createdAt
  | "updated_at" | "update_time" => some .updatedAt
  | _ => none

def cell (field : RuleField) (rule : Rule) : Cell :=
  match field with
  | .id => .int rule.id
  | .name => .text rule.name
  | .expression => .text rule.expression
  | .severity => .text rule.severity
  | .duration => .text rule.duration
  | .createdAt => .int rule.createdAt
  | .updatedAt => .int rule.updatedAt

instance : Column RuleField Rule where
  rows := "rule"
  ofName? := ofName?
  standard := .name
  cell := cell
  id := Rule.id

end RuleField

namespace AnalysisField

/-- The times of begin and end have two names each. -/
def ofName? : String → Option AnalysisField
  | "id" => some .id
  | "rule_id" => some .ruleId
  | "rule_name" => some .ruleName
  | "status" => some .status
  | "count" => some .count
  | "created_at" | "create_time" => some .createdAt
  | "updated_at" | "update_time" => some .updatedAt
  | _ => none

def cell (field : AnalysisField) (a : Analysis) : Cell :=
  match field with
  | .id => .int a.id
  | .ruleId => .int a.ruleId
  | .ruleName => .text a.ruleName
  | .status => .text a.status
  | .count => .int a.count
  | .createdAt => .int a.createdAt
  | .updatedAt => .int a.updatedAt

instance : Column AnalysisField Analysis where
  rows := "analysis"
  ofName? := ofName?
  standard := .ruleName
  cell := cell
  id := Analysis.id

end AnalysisField

/-- The direction of a word, in small or capital letters. -/
def Direction.ofName? (s : String) : Option Direction :=
  match String.ofList (s.toList.map Char.toLower) with
  | "asc" => some .ascending
  | "desc" => some .descending
  | _ => none

namespace Order

variable {φ ρ : Type} [Column φ ρ]

/-- A row comes before another, or they are one row. -/
def le (order : Order φ) (a b : ρ) : Bool :=
  let ca := Column.cell order.field a
  let cb := Column.cell order.field b
  if ca = cb then Column.id φ a ≤ Column.id φ b
  else match order.direction with
    | .ascending => ca.lt cb
    | .descending => cb.lt ca

/-- The rows in order. -/
def sort (order : Order φ) (rows : List ρ) : List ρ :=
  rows.mergeSort order.le

end Order

end RuleWatch.Listing
