import RuleWatch.PromQL.Token
import RuleWatch.Regex.Parser
import RuleWatch.Regex.Size

/-!
# Label matchers

What a selector asks of the labels of a series. A regular expression in which a brace opens no
repetition is read once more with such braces taken literally.
-/

namespace RuleWatch.PromQL

/-- What is asked of the value of a label. -/
inductive Matcher.Test
  | equals (value : List Char)
  | differs (value : List Char)
  | matchesRegex (r : Regex)
  | missesRegex (r : Regex)

/-- A label, and what is asked of its value. -/
structure Matcher where
  label : List Char
  test : Matcher.Test

namespace Matcher

/-- Reads what may be the counts of a repetition after its brace, given what has been read of them,
last first: whether they are, all that has been read, and the rest. -/
def readCounts (read : List Char) (commaSeen : Bool) :
    List Char → Bool × List Char × List Char
  | [] => (false, read.reverse, [])
  | c :: cs =>
    let read' := (c :: read).reverse
    if c = ',' then
      if commaSeen || read.isEmpty then (false, read', cs) else readCounts (c :: read) true cs
    else if c = '\x7d' then (!read.isEmpty, read', cs)
    else if c.isDigit then readCounts (c :: read) commaSeen cs
    else (false, read', cs)

/-- The text of a regular expression with a backslash before each brace that opens no repetition.
What stands after a backslash or a brace is passed over. -/
def escapeBraces : Nat → List Char → List Char
  | 0, _ => []
  | _, [] => []
  | fuel + 1, c :: cs =>
    if c = '\\' then
      match cs with
      | d :: cs => c :: d :: escapeBraces fuel cs
      | [] => []
    else if c = '\x7b' then
      let (isRepetition, read, rest) := readCounts [] false cs
      (if isRepetition then [c] else ['\\', c]) ++ read ++ escapeBraces fuel rest
    else c :: escapeBraces fuel cs

/-- The regular expression of a text, if it is one and not too large. -/
def plainRegex? (cs : List Char) : Option Regex :=
  (Regex.read? cs).filter Regex.isSmall

/-- The regular expression of a text, in which braces may stand for themselves. -/
def regex? (cs : List Char) : Option Regex :=
  (plainRegex? cs).or (plainRegex? (escapeBraces cs.length cs))

/-- The matcher of a label, a sign and a value. -/
def make? (label : List Char) (s : Sign) (value : List Char) : Option Matcher :=
  match s with
  | .is => some ⟨label, .equals value⟩
  | .ne => some ⟨label, .differs value⟩
  | .matchesRegex => (regex? value).map fun r ↦ ⟨label, .matchesRegex r⟩
  | .missesRegex => (regex? value).map fun r ↦ ⟨label, .missesRegex r⟩
  | _ => none

/-- A series without the label passes. -/
def acceptsEmpty (m : Matcher) : Bool :=
  match m.test with
  | .equals value => value.isEmpty
  | .differs value => !value.isEmpty
  | .matchesRegex r => r.matchesEmpty
  | .missesRegex r => !r.matchesEmpty

/-- The label that holds the name of the metric. -/
def nameLabel : List Char := "__name__".toList

end Matcher

/-- A selector of series: by the name of their metric, and by their labels. -/
structure Selector where
  name : Option (List Char)
  matchers : List Matcher

/-- A selector with a name has no matcher for the name, and one without has a matcher that not every
series passes. -/
def Selector.isProper (s : Selector) : Bool :=
  match s.name with
  | some _ => s.matchers.all fun m ↦ m.label != Matcher.nameLabel
  | none => s.matchers.any fun m ↦ !m.acceptsEmpty

end RuleWatch.PromQL
