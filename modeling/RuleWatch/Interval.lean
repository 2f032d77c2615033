import RuleWatch.Text.Integer
import RuleWatch.Text.Quoted

/-!
# Intervals

Lengths of time such as `1h30m`: groups of digits with a unit, the units from the longest to the
shortest and each at most once. The length is counted in milliseconds and fits in 64 bits.
-/

namespace RuleWatch.Interval

/-- A unit of time: how it is written, and its length in milliseconds. -/
structure Unit where
  symbol : List Char
  length : Nat
  deriving DecidableEq, Repr

/-- The units in the order in which they may follow one another. -/
def units : List Unit :=
  [⟨['y'], 365 * 24 * 60 * 60 * 1000⟩,
   ⟨['w'], 7 * 24 * 60 * 60 * 1000⟩,
   ⟨['d'], 24 * 60 * 60 * 1000⟩,
   ⟨['h'], 60 * 60 * 1000⟩,
   ⟨['m'], 60 * 1000⟩,
   ⟨['s'], 1000⟩,
   ⟨['m', 's'], 1⟩]

/-- Why a text is no interval. -/
inductive Fault
  | empty
  | noNumber
  | numberTooLarge
  /-- The letters of a group are no unit that may still come. -/
  | misplacedUnit (letters : List Char)
  | tooLong
  | notPositive
  deriving DecidableEq, Repr

/-- What is wrong with the text, in words. -/
def Fault.message (text : String) : Fault → String
  | .empty => "empty duration"
  | .noNumber => "expected a number in " ++ Text.quote text
  | .numberTooLarge => "number out of range in " ++ Text.quote text
  | .misplacedUnit letters =>
    "unknown or out-of-order unit " ++ Text.quote (String.ofList letters) ++ " in "
      ++ Text.quote text
  | .tooLong => "duration " ++ Text.quote text ++ " overflows"
  | .notPositive => "duration " ++ Text.quote text ++ " is not positive"

/-- The number and the letters of the first group, and what follows it. -/
structure Group where
  number : Nat
  letters : List Char
  rest : List Char

/-- The first group of a text. -/
def Group.read (cs : List Char) : Except Fault Group :=
  let digits := cs.takeWhile Char.isDigit
  let rest := cs.dropWhile Char.isDigit
  if digits.isEmpty then .error .noNumber
  else
    let number := Text.digitsValue digits
    if Text.maxUInt64 < number then .error .numberTooLarge
    else .ok ⟨number, rest.takeWhile Char.isAlpha, rest.dropWhile Char.isAlpha⟩

/-- The length of the groups of a text, added to a length, when only some units may still come. -/
def sumGroups : List Unit → Nat → List Char → Except Fault Nat
  | _, total, [] => .ok total
  | [], _, cs => do
    let group ← Group.read cs
    throw (.misplacedUnit group.letters)
  | unit :: units, total, cs => do
    let group ← Group.read cs
    if group.letters = unit.symbol then
      let total := total + group.number * unit.length
      if Text.maxUInt64 < total then throw .tooLong else sumGroups units total group.rest
    else sumGroups units total cs

/-- The length of an interval in milliseconds. -/
def parse (s : String) : Except Fault Nat :=
  match s.toList with
  | [] => .error .empty
  | cs => sumGroups units 0 cs

/-- The length of an interval that is not zero. -/
def parsePositive (s : String) : Except Fault Nat := do
  let length ← parse s
  if length = 0 then throw .notPositive else return length

end RuleWatch.Interval
