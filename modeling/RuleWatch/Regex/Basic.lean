import RuleWatch.Regex.CharSet

/-!
# Regular expressions

The structure of a regular expression as it is written, with the sets of characters worked out. It
tells whether the empty text matches and how deep the expression is nested.
-/

namespace RuleWatch

/-- An end of a word, both of them, one of them or none, from one side or from both. -/
inductive Regex.Boundary
  | either
  | neither
  | start
  | stop
  | startHalf
  | stopHalf
  deriving DecidableEq, Repr

/-- A condition on a place in a text. -/
inductive Regex.Look
  | textStart
  | textEnd
  /-- After a line feed; or, if told, after a carriage return too. -/
  | lineStart (crlf : Bool)
  | lineEnd (crlf : Bool)
  /-- Of words of all letters, or of those of ASCII only. -/
  | word (boundary : Regex.Boundary) (unicode : Bool)
  deriving DecidableEq, Repr

/-- The condition holds at the only place in the empty text, where there is no word. -/
def Regex.Look.holdsOnEmpty : Look → Bool
  | .textStart | .textEnd | .lineStart _ | .lineEnd _ => true
  | .word .neither _ | .word .startHalf _ | .word .stopHalf _ => true
  | .word .either _ | .word .start _ | .word .stop _ => false

/-- A regular expression. -/
inductive Regex
  | empty
  | char (c : Char)
  /-- One member of a set, written with brackets nested so deep; of characters, or of bytes. -/
  | set (s : Regex.CharSet) (unicode : Bool) (depth : Nat)
  | look (condition : Regex.Look)
  /-- A group, with its number if what it matches is kept. -/
  | group (number : Option Nat) (inner : Regex)
  /-- At least so many times, and at most so many if there is a limit; rather fewer than more, if
  lazy. -/
  | repeated (least : Nat) (most : Option Nat) (lazy : Bool) (inner : Regex)
  | concat (parts : List Regex)
  | alternatives (parts : List Regex)
  deriving Inhabited

namespace Regex

mutual

/-- The empty text matches. -/
def matchesEmpty : Regex → Bool
  | empty => true
  | char _ | set _ _ _ => false
  | look condition => condition.holdsOnEmpty
  | group _ inner => inner.matchesEmpty
  | repeated least _ _ inner => least == 0 || inner.matchesEmpty
  | concat parts => allMatchEmpty parts
  | alternatives parts => anyMatchesEmpty parts

/-- The empty text matches all of them. -/
def allMatchEmpty : List Regex → Bool
  | [] => true
  | part :: parts => part.matchesEmpty && allMatchEmpty parts

/-- The empty text matches one of them. -/
def anyMatchesEmpty : List Regex → Bool
  | [] => false
  | part :: parts => part.matchesEmpty || anyMatchesEmpty parts

end

mutual

/-- How deep expressions are nested in one another. -/
def height : Regex → Nat
  | empty | char _ | look _ => 0
  | set _ _ depth => depth
  | group _ inner | repeated _ _ _ inner => inner.height + 1
  | concat parts | alternatives parts => maxHeight parts + 1

/-- The greatest height. -/
def maxHeight : List Regex → Nat
  | [] => 0
  | part :: parts => max part.height (maxHeight parts)

end

/-- The expression of several parts, one after another. -/
def ofParts : List Regex → Regex
  | [] => empty
  | [part] => part
  | parts => concat parts

/-- The expression of several alternatives. -/
def ofAlternatives : List Regex → Regex
  | [] => empty
  | [part] => part
  | parts => alternatives parts

end Regex

end RuleWatch
