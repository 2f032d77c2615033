import RuleWatch.Double.Decimal
import RuleWatch.Text.Digit
import RuleWatch.Toml.Basic

/-!
# Numbers, dates and times of settings

Integers are those of a signed 64-bit word, decimal with an optional sign, or in base sixteen, eight
or two after `0x`, `0o` or `0b`. Between two digits an underscore may stand. A decimal integer has
no zero before its other digits; one with a fraction or an exponent is a float.

Dates are those of the calendar; a time of day has seconds, and after a date it may be given with
its offset.
-/

namespace RuleWatch.Toml.Scalar

/-! ## Digits -/

/-- Digits, the first of them at the front, with single underscores between them: the digits, and
what follows. -/
def digits? (isDigit : Char → Bool) : List Char → Option (List Char × List Char)
  | c :: '_' :: cs =>
    if isDigit c then (digits? isDigit cs).map fun (ds, rest) ↦ (c :: ds, rest) else none
  | c :: cs =>
    if isDigit c then
      match digits? isDigit cs with
      | some (ds, rest) => some (c :: ds, rest)
      | none => if cs.head?.any isDigit then none else some ([c], cs)
    else none
  | [] => none

/-- An optional sign. -/
def sign : List Char → List Char × List Char
  | '+' :: cs => (['+'], cs)
  | '-' :: cs => (['-'], cs)
  | cs => ([], cs)

/-- The decimal digits before a point: a zero, or digits that do not begin with one. -/
def whole? : List Char → Option (List Char × List Char)
  | '0' :: cs => some (['0'], cs)
  | cs => digits? Char.isDigit cs

/-! ## Integers -/

/-- An integer after the mark of its base. -/
def inBase? (base : Nat) (cs : List Char) : Option (Value × List Char) := do
  let (ds, rest) ← digits? (fun c ↦ (Text.digitValue? base c).isSome) cs
  let n ← Text.ofDigits? base ds
  if Text.maxInt64 < n then none
  return (.integer n, rest)

/-- An integer. -/
def integer? : List Char → Option (Value × List Char)
  | '0' :: 'x' :: cs => inBase? 16 cs
  | '0' :: 'o' :: cs => inBase? 8 cs
  | '0' :: 'b' :: cs => inBase? 2 cs
  | cs => do
    let (s, cs) := sign cs
    let (ds, rest) ← whole? cs
    let n ← Text.int64? (String.ofList (s ++ ds))
    return (.integer n, rest)

/-! ## Floats -/

/-- An exponent, with the letter before it. -/
def exponent? : List Char → Option (List Char × List Char)
  | c :: cs =>
    if c = 'e' ∨ c = 'E' then do
      let (s, cs) := sign cs
      let (ds, rest) ← digits? Char.isDigit cs
      return ('e' :: s ++ ds, rest)
    else none
  | [] => none

/-- A fraction, with the point before it, and an exponent if there is one. -/
def fraction? : List Char → Option (List Char × List Char)
  | '.' :: cs => do
    let (ds, cs) ← digits? Char.isDigit cs
    match exponent? cs with
    | some (exp, rest) => return ('.' :: ds ++ exp, rest)
    | none => return ('.' :: ds, cs)
  | _ => none

/-- A float that is a number or the word for none, or for an infinity. What is too large for a float
is none, if it has no minus sign. -/
def float? (cs : List Char) : Option (Value × List Char) :=
  let (s, cs) := sign cs
  match cs with
  | 'i' :: 'n' :: 'f' :: rest => some (.float (Double.infinity (s == ['-'])), rest)
  | 'n' :: 'a' :: 'n' :: rest => some (.float Double.nan, rest)
  | cs => do
    let (ds, cs) ← whole? cs
    let (tail, rest) ← (exponent? cs).or (fraction? cs)
    let d ← Double.ofText? (String.ofList (s ++ ds ++ tail))
    if d = Double.infinity false then none
    return (.float d, rest)

/-! ## Dates and times -/

/-- A number of so many digits, within bounds. -/
def number? (length low high : Nat) (cs : List Char) : Option (Nat × List Char) := do
  let ds := cs.take length
  if ds.length < length then none
  let n ← Text.nat? ds
  if n < low ∨ high < n then none
  return (n, cs.drop length)

/-- What follows a character. -/
def after? (c : Char) : List Char → Option (List Char)
  | d :: cs => if d = c then some cs else none
  | [] => none

/-- The number of days of a month. -/
def daysIn (year month : Nat) : Nat :=
  if month = 2 then
    if year % 4 = 0 ∧ (year % 100 ≠ 0 ∨ year % 400 = 0) then 29 else 28
  else if month = 4 ∨ month = 6 ∨ month = 9 ∨ month = 11 then 30
  else 31

/-- What follows a date. -/
def afterDate? (cs : List Char) : Option (List Char) := do
  let (year, cs) ← number? 4 0 9999 cs
  let (month, cs) ← number? 2 1 12 (← after? '-' cs)
  let (_, cs) ← number? 2 1 (daysIn year month) (← after? '-' cs)
  return cs

/-- What follows an hour and a minute. -/
def afterMinute? (cs : List Char) : Option (List Char) := do
  let (_, cs) ← number? 2 0 23 cs
  let (_, cs) ← number? 2 0 59 (← after? ':' cs)
  return cs

/-- What follows a time of day, with parts of a second or without. -/
def afterTime? (cs : List Char) : Option (List Char) := do
  let (_, cs) ← number? 2 0 60 (← after? ':' (← afterMinute? cs))
  match cs with
  | '.' :: c :: rest => return if c.isDigit then rest.dropWhile Char.isDigit else cs
  | cs => return cs

/-- What follows an offset, if there is one. -/
def afterOffset : List Char → List Char
  | c :: cs =>
    if c = 'Z' ∨ c = 'z' then cs
    else if c = '+' ∨ c = '-' then (afterMinute? cs).getD (c :: cs)
    else c :: cs
  | [] => []

/-- What follows a time after a date, with its offset, if there is one. -/
def afterTimeOfDate : List Char → List Char
  | c :: cs =>
    if c = 'T' ∨ c = 't' ∨ c = ' ' then
      match afterTime? cs with
      | some rest => afterOffset rest
      | none => c :: cs
    else c :: cs
  | [] => []

/-- A date, a time of day, or a date with a time. -/
def moment? (cs : List Char) : Option (Value × List Char) := do
  let rest ← ((afterDate? cs).map afterTimeOfDate).or (afterTime? cs)
  return (.moment (cs.take (cs.length - rest.length)), rest)

/-- A number, a date or a time, a truth value, or nothing of these. -/
def value? (cs : List Char) : Option (Value × List Char) :=
  match cs with
  | 't' :: 'r' :: 'u' :: 'e' :: rest => some (.boolean true, rest)
  | 'f' :: 'a' :: 'l' :: 's' :: 'e' :: rest => some (.boolean false, rest)
  | cs => (moment? cs).or ((float? cs).or (integer? cs))

end RuleWatch.Toml.Scalar
