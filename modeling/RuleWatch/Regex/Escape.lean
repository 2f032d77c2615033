import RuleWatch.Regex.Flags
import RuleWatch.Text.Digit

/-!
# Escapes in regular expressions

What follows a backslash: a character that would have a meaning without it, a character by letter
or by number, or a condition on the place. References to groups are not among them, so that no digit
follows a backslash; nor are sets by a letter, since the texts in which expressions are written let
no such letter follow a backslash.
-/

namespace RuleWatch.Regex

/-- What an escape stands for. -/
inductive Escape
  /-- A character, which may have been given as the number of a byte. -/
  | literal (c : Char) (isByte : Bool)
  | look (condition : Look)
  deriving DecidableEq, Repr

namespace Escape

/-- The character is a digit in base sixteen. -/
def isHexDigit (c : Char) : Bool :=
  (Text.digitValue? 16 c).isSome

/-- The character whose number has these digits in base sixteen. -/
def ofDigits? (digits : List Char) : Option Char := do
  Text.charOfNumber? (← Text.ofDigits? 16 digits)

/-- A character by number: so many digits, or any number of them in braces. -/
def byNumber (f : Flags) (length : Nat) (cs : List Char) : Option (Escape × List Char) :=
  match f.skip cs with
  | '\x7b' :: cs => do
    let (digits, rest) := f.takeWhile isHexDigit cs.length (f.skip cs)
    match rest with
    | '\x7d' :: rest => return (literal (← ofDigits? digits) false, f.skip rest)
    | _ => none
  | cs => do
    let (digits, rest) ← f.take? isHexDigit length cs
    return (literal (← ofDigits? digits) (length == 2), rest)

/-- The name of a condition on words, as it stands in braces. -/
def boundaryOfName? : String → Option Boundary
  | "start" => some .start
  | "end" => some .stop
  | "start-half" => some .startHalf
  | "end-half" => some .stopHalf
  | _ => none

/-- A character that a name in braces can be made of. -/
def isBoundaryChar (c : Char) : Bool :=
  c.isAlpha || c == '-'

/-- A word boundary, with or without a name in braces. Braces that begin with something else say
how often the boundary is repeated. -/
def boundary (f : Flags) (cs : List Char) : Option (Boundary × List Char) :=
  match cs with
  | '\x7b' :: inner =>
    match f.skip inner with
    | [] => none
    | c :: rest =>
      if isBoundaryChar c then
        let (name, rest) := f.takeWhile isBoundaryChar (rest.length + 1) (c :: rest)
        match rest with
        | '\x7d' :: rest => (boundaryOfName? (String.ofList name)).map fun b ↦ (b, rest)
        | _ => none
      else some (.either, cs)
  | cs => some (.either, cs)

/-- What follows a backslash, and the rest. -/
def read (f : Flags) : List Char → Option (Escape × List Char)
  | [] => none
  | c :: cs =>
    let place (b : Boundary) := look (.word b f.unicode)
    match c with
    | 'x' => byNumber f 2 cs
    | 'u' => byNumber f 4 cs
    | 'U' => byNumber f 8 cs
    | 'b' => (boundary f cs).map fun (b, rest) ↦ (place b, rest)
    | 'B' => some (place .neither, cs)
    | 'A' => some (look .textStart, cs)
    | 'z' => some (look .textEnd, cs)
    | '<' => some (place .start, cs)
    | '>' => some (place .stop, cs)
    | 'a' => some (literal '\x07' false, cs)
    | 'f' => some (literal '\x0c' false, cs)
    | 'n' => some (literal '\n' false, cs)
    | 'r' => some (literal '\r' false, cs)
    | 't' => some (literal '\t' false, cs)
    | 'v' => some (literal '\x0b' false, cs)
    | c => if c.toNat < 0x80 && !c.isAlphanum then some (literal c false, cs) else none

end Escape

end RuleWatch.Regex
