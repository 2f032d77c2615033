import RuleWatch.Text.Property.Alphanumeric
import RuleWatch.Text.Property.Cased
import RuleWatch.Text.Property.Fold
import RuleWatch.Text.Property.SmallLetter
import RuleWatch.Text.Property.Unprintable

/-!
# Properties of characters

Membership of a character in the tables of the Unicode character database.
-/

namespace RuleWatch.Text.Property

/-- A code point lies in one of the closed ranges. -/
def within (ranges : List (Nat × Nat)) (n : Nat) : Bool :=
  ranges.any fun (low, high) ↦ low ≤ n && n ≤ high

/-- The character has the property `Cased`. -/
def isCased (c : Char) : Bool :=
  within cased c.toNat

/-- The character has the property `Case_Ignorable`. -/
def isCaseIgnorable (c : Char) : Bool :=
  within caseIgnorable c.toNat

/-- The character is shown as it is in a quoted text. -/
def isPrintable (c : Char) : Bool :=
  if c.toNat < 0x7F then 0x20 ≤ c.toNat else !within unprintable c.toNat

/-- The character is alphabetic. -/
def isAlphabetic (c : Char) : Bool :=
  within alphabetic c.toNat

/-- The character is alphabetic, or a digit or another number. -/
def isAlphanumeric (c : Char) : Bool :=
  isAlphabetic c || within numeric c.toNat

/-- The small letter of a capital letter, and every other character itself. -/
def smallLetter (c : Char) : Char :=
  if c.toNat < 0x80 then c.toLower
  else match smallLetterRuns.find? fun (low, high, step, _) ↦
      low ≤ c.toNat && c.toNat ≤ high && (c.toNat - low) % step == 0 with
    | some (_, _, _, distance) => Char.ofNat (c.toNat + distance).toNat
    | none => c

/-- Each code point for which another stands when case does not count, with that other. -/
def folded : List (Nat × Nat) :=
  foldRuns.flatMap fun (low, high, step, distance) ↦
    (List.range ((high - low) / step + 1)).map fun k ↦
      (low + k * step, (((low + k * step : Nat) : Int) + distance).toNat)

end RuleWatch.Text.Property
