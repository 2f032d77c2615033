import RuleWatch.Regex.Basic
import RuleWatch.Text.Blank

/-!
# Flags

What has been said about how an expression is read and what it means, and the parts of it that do
not count under the flag that skips blanks.
-/

namespace RuleWatch.Regex

/-- The flags that are on. -/
structure Flags where
  ignoresCase : Bool := false
  multiLine : Bool := false
  dotAll : Bool := false
  prefersFewer : Bool := false
  unicode : Bool := true
  crlf : Bool := false
  skipsBlanks : Bool := false
  deriving DecidableEq, Repr

namespace Flags

/-- The letters of the flags. -/
def letters : List Char := ['i', 'm', 's', 'U', 'u', 'R', 'x']

/-- The flags with one of them on or off. -/
def set (f : Flags) : Char × Bool → Flags
  | ('i', on) => { f with ignoresCase := on }
  | ('m', on) => { f with multiLine := on }
  | ('s', on) => { f with dotAll := on }
  | ('U', on) => { f with prefersFewer := on }
  | ('u', on) => { f with unicode := on }
  | ('R', on) => { f with crlf := on }
  | ('x', on) => { f with skipsBlanks := on }
  | _ => f

/-- Flags with the sign that they have: on, or off after a minus. -/
def read? : Bool → List (Char × Bool) → List Char → Option (List (Char × Bool) × List Char)
  | _, _, [] => none
  | on, acc, c :: cs =>
    if c = ')' ∨ c = ':' then
      if !on && (acc.all fun f ↦ f.2) then none else some (acc, c :: cs)
    else if c = '-' then
      if on then read? false acc cs else none
    else if c ∈ letters then
      if acc.any fun f ↦ f.1 == c then none else read? on (acc ++ [(c, on)]) cs
    else none

/-- Without the blanks and comments at the front. -/
def dropBlanks : Bool → List Char → List Char
  | _, [] => []
  | true, c :: cs => dropBlanks (c != '\n') cs
  | false, c :: cs =>
    if Text.isBlank c then dropBlanks false cs
    else if c = '#' then dropBlanks true cs
    else c :: cs

/-- Without what does not count at the front. -/
def skip (f : Flags) (cs : List Char) : List Char :=
  if f.skipsBlanks then dropBlanks false cs else cs

/-- The first character that is no blank and opens no comment, where the text of a comment is not
skipped. -/
def peekBlanks : Bool → List Char → Option Char
  | _, [] => none
  | inComment, c :: cs =>
    if Text.isBlank c then peekBlanks inComment cs
    else if c = '#' && !inComment then peekBlanks true cs
    else some c

/-- The character that counts next. -/
def peek (f : Flags) (cs : List Char) : Option Char :=
  if f.skipsBlanks then (peekBlanks false cs).or cs.head? else cs.head?

/-- The characters at the front that pass, as long as they do, where what does not count is skipped
after each; and the rest. -/
def takeWhile (f : Flags) (passes : Char → Bool) : Nat → List Char → List Char × List Char
  | 0, cs => ([], cs)
  | _, [] => ([], [])
  | fuel + 1, c :: cs =>
    if passes c then
      let (taken, rest) := f.takeWhile passes fuel (f.skip cs)
      (c :: taken, rest)
    else ([], c :: cs)

/-- So many characters that pass, where what does not count is skipped after each; and the rest. -/
def take? (f : Flags) (passes : Char → Bool) : Nat → List Char → Option (List Char × List Char)
  | 0, cs => some ([], cs)
  | _, [] => none
  | n + 1, c :: cs => do
    if passes c then
      let (taken, rest) ← f.take? passes n (f.skip cs)
      return (c :: taken, rest)
    else none

end Flags

end RuleWatch.Regex
