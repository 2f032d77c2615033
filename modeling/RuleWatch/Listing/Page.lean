import RuleWatch.Text.Integer

/-!
# Pages

A window on a list of rows: the rows are dealt out in pages of one size, counted from one.
-/

namespace RuleWatch

/-- One page of a listing, by its number and the number of rows that a page has. -/
structure Page where
  number : Nat
  size : Nat
  deriving DecidableEq, Repr, Inhabited

namespace Page

/-- The greatest number of rows that a listing gives at once. -/
def maxSize : Nat := 1000

/-- How many rows are passed over, if a database can count that far. -/
def offset? (page : Page) : Option Nat :=
  let offset := (page.number - 1) * page.size
  if (offset : Int) ≤ Text.maxInt64 then some offset else none

/-- How many rows are given at most. -/
def limit (page : Page) : Nat :=
  min page.size maxSize

/-- What is said of a page that begins further on than a database can count. -/
def outOfRangeMessage (page : Page) : String :=
  "page_no " ++ toString page.number ++ " is out of range"

/-- The rows of a page that passes over `offset` rows. -/
def window {α : Type} (page : Page) (offset : Nat) (rows : List α) : List α :=
  (rows.drop offset).take page.limit

end Page

end RuleWatch
