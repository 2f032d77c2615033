import RuleWatch.Proofs.Listing.Order
import RuleWatch.Proofs.Listing.Page
import RuleWatch.Proofs.Listing.Pattern
import RuleWatch.Store.Analyses
import RuleWatch.Store.Rules

/-!
# One page of a table

What comes of a question for one page, as long as the filter is not longer than a database takes it:
the rows on that page of all rows that pass the filter, in order, and how many of them there are.
-/

namespace RuleWatch

open Listing

namespace Store

variable {φ ρ : Type} [Column φ ρ] {name : ρ → String} {filter : Option String}

/-- A database takes the filter. -/
def IsShort (filter : Option String) : Prop :=
  ∀ needle ∈ filter, Text.utf8Length (Pattern.containing needle) ≤ Pattern.maxBytes

/-- The name passes the filter: it contains its text, if there is a filter. -/
def passes (filter : Option String) (name : String) : Bool :=
  filter.all fun needle ↦ Pattern.contains needle name

theorem matching_eq (h : IsShort filter) (rows : List ρ) :
    matching name filter rows = .ok (rows.filter fun row ↦ passes filter (name row)) := by
  unfold matching
  cases filter with
  | none => simp [passes]
  | some needle =>
    have hlength := Nat.not_lt_of_le (h needle rfl)
    by_cases hempty : needle = ""
    · subst hempty
      simp [passes, Option.filter_some, Pattern.contains_empty]
    · simp [passes, Option.filter_some, hempty, hlength]

theorem list_eq {order : Order φ} {page : Page} (h : page.IsValid) (hfilter : IsShort filter)
    (rows : List ρ) :
    list name filter order page rows =
      let found := rows.filter fun row ↦ passes filter (name row)
      .ok (page.rowsOf (order.sort found), found.length) := by
  rw [list, h.offset?_eq, matching_eq hfilter]
  rfl

end Store

end RuleWatch
