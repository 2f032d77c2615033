import RuleWatch.Listing.Order
import RuleWatch.Proofs.Text.ByteOrder

/-!
# Rows in order

The rows of a listing are all there, and they are in the order that was asked for: by what they have
in the column, in either direction, and rows that agree there by their ids, the least first.
-/

namespace RuleWatch.Listing

/-! ## Cells -/

/-- What is in one cell comes before what is in another: integers by their values, texts by their
bytes, and integers before texts. -/
inductive Cell.Before : Cell → Cell → Prop
  | int {a b : Int} (h : a < b) : Before (.int a) (.int b)
  | text {a b : String} (h : Text.toBytes a < Text.toBytes b) : Before (.text a) (.text b)
  | mixed {a : Int} {b : String} : Before (.int a) (.text b)

namespace Cell

variable {a b c : Cell}

theorem lt_iff_before : a.lt b ↔ a.Before b := by
  constructor
  · intro h
    cases a with
    | int x =>
      cases b with
      | int y => exact .int (of_decide_eq_true h)
      | text y => exact .mixed
    | text x =>
      cases b with
      | int y => contradiction
      | text y => exact .text (Text.toBytes_lt_iff.mpr (of_decide_eq_true h))
  · rintro (h | h | _)
    · exact decide_eq_true h
    · exact decide_eq_true (Text.toBytes_lt_iff.mp h)
    · rfl

theorem Before.irrefl : ¬ a.Before a := by
  rintro (h | h)
  · exact Int.lt_irrefl _ h
  · exact List.lt_irrefl _ h

theorem Before.trans (h : a.Before b) (h' : b.Before c) : a.Before c := by
  cases h with
  | int h =>
    cases h' with
    | int h' => exact .int (Int.lt_trans h h')
    | mixed => exact .mixed
  | text h =>
    cases h' with
    | text h' => exact .text (List.lt_trans h h')
  | mixed =>
    cases h' with
    | text h' => exact .mixed

theorem before_trichotomy (a b : Cell) : a.Before b ∨ a = b ∨ b.Before a := by
  cases a with
  | int x =>
    cases b with
    | int y => exact (lt_trichotomy x y).imp .int (.imp (congrArg _) .int)
    | text y => exact .inl .mixed
  | text x =>
    cases b with
    | int y => exact .inr (.inr .mixed)
    | text y =>
      rcases lt_trichotomy x y with h | h | h
      · exact .inl (.text (Text.toBytes_lt_toBytes h))
      · exact .inr (.inl (congrArg _ h))
      · exact .inr (.inr (.text (Text.toBytes_lt_toBytes h)))

end Cell

/-! ## Rows -/

/-- What is in one cell comes before what is in another, in a direction. -/
def Direction.Before : Direction → Cell → Cell → Prop
  | .ascending, a, b => a.Before b
  | .descending, a, b => b.Before a

namespace Direction

variable {direction : Direction} {a b c : Cell}

theorem Before.ne (h : direction.Before a b) : a ≠ b := by
  rintro rfl
  cases direction <;> exact Cell.Before.irrefl h

theorem Before.trans (h : direction.Before a b) (h' : direction.Before b c) :
    direction.Before a c := by
  cases direction with
  | ascending => exact Cell.Before.trans h h'
  | descending => exact Cell.Before.trans h' h

theorem before_trichotomy (direction : Direction) (a b : Cell) :
    direction.Before a b ∨ a = b ∨ direction.Before b a := by
  cases direction with
  | ascending => exact Cell.before_trichotomy a b
  | descending => exact (Cell.before_trichotomy b a).imp_right (.imp_left .symm)

end Direction

namespace Order

variable {φ ρ : Type} [Column φ ρ] {order : Order φ} {a b c : ρ}

/-- One row comes before another by what they have in the column, or they agree there and it has the
lesser id. -/
def Precedes (order : Order φ) (a b : ρ) : Prop :=
  order.direction.Before (Column.cell order.field a) (Column.cell order.field b) ∨
    Column.cell order.field a = Column.cell order.field b ∧ Column.id φ a ≤ Column.id φ b

theorem le_iff_precedes : order.le a b ↔ order.Precedes a b := by
  have hlt : Column.cell order.field a ≠ Column.cell order.field b →
      (order.le a b ↔
        order.direction.Before (Column.cell order.field a) (Column.cell order.field b)) := by
    intro hne
    rw [le, if_neg hne]
    cases order.direction <;> exact Cell.lt_iff_before
  by_cases heq : Column.cell order.field a = Column.cell order.field b
  · rw [le, if_pos heq, decide_eq_true_iff, Precedes]
    constructor
    · exact fun hid ↦ .inr ⟨heq, hid⟩
    · rintro (h | ⟨-, hid⟩)
      · exact absurd heq h.ne
      · exact hid
  · rw [hlt heq, Precedes]
    simp [heq]

theorem Precedes.trans (h : order.Precedes a b) (h' : order.Precedes b c) : order.Precedes a c := by
  rcases h with h | ⟨h, hid⟩
  · rcases h' with h' | ⟨h', -⟩
    · exact .inl (h.trans h')
    · exact .inl (h' ▸ h)
  · rcases h' with h' | ⟨h', hid'⟩
    · exact .inl (h ▸ h')
    · exact .inr ⟨h.trans h', Int.le_trans hid hid'⟩

theorem precedes_total (order : Order φ) (a b : ρ) : order.Precedes a b ∨ order.Precedes b a := by
  rcases order.direction.before_trichotomy (Column.cell order.field a) (Column.cell order.field b)
    with h | h | h
  · exact .inl (.inl h)
  · exact (Int.le_total (Column.id φ a) (Column.id φ b)).imp (fun hid ↦ .inr ⟨h, hid⟩)
      fun hid ↦ .inr ⟨h.symm, hid⟩
  · exact .inr (.inl h)

/-- Sorted rows are in order. -/
theorem pairwise_sort (order : Order φ) (rows : List ρ) :
    (order.sort rows).Pairwise order.Precedes := by
  have htrans : ∀ a b c : ρ, order.le a b → order.le b c → order.le a c := fun _ _ _ h h' ↦
    le_iff_precedes.mpr ((le_iff_precedes.mp h).trans (le_iff_precedes.mp h'))
  have htotal : ∀ a b : ρ, order.le a b || order.le b a := fun a b ↦
    Bool.or_eq_true_iff.mpr
      ((order.precedes_total a b).imp le_iff_precedes.mpr le_iff_precedes.mpr)
  exact (List.pairwise_mergeSort htrans htotal rows).imp le_iff_precedes.mp

/-- Sorted rows are the same rows. -/
theorem sort_perm (order : Order φ) (rows : List ρ) : (order.sort rows).Perm rows :=
  List.mergeSort_perm ..

end Order

end RuleWatch.Listing
