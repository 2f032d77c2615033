import RuleWatch.Text.Lowercase
import RuleWatch.Text.Utf8

/-!
# Patterns

The pattern language of the database, in which a percent sign stands for any characters, an
underscore for one, and a backslash takes the meaning from the character after it. Letters of the
ASCII alphabet are matched in either case. A pattern and a text end at a NUL character, and the two
last characters of the basic plane, which stand for nothing, are read as the replacement character.

A filter looks for its text inside a name: the filter in small letters, with everything that has a
meaning taken literally, between two percent signs.
-/

namespace RuleWatch.Listing

/-- One part of a pattern. -/
inductive Pattern.Part
  | any
  | one
  | literal (c : Char)
  deriving DecidableEq, Repr

/-- A pattern, as parts. A backslash at the end is followed by nothing, and matches nothing. -/
structure Pattern where
  parts : List Pattern.Part
  /-- The pattern ends in a backslash. -/
  unfinished : Bool
  deriving DecidableEq, Repr

namespace Pattern

/-- What is before the first NUL. -/
def untilNul (cs : List Char) : List Char :=
  cs.takeWhile (· ≠ '\x00')

/-- The character as it is matched. -/
def asRead (c : Char) : Char :=
  if c = '\uFFFE' ∨ c = '\uFFFF' then Text.replacement else c

/-- The characters that are matched. -/
def read (cs : List Char) : List Char :=
  (untilNul cs).map asRead

/-- The parts that the characters of a pattern are. -/
def ofChars : List Char → Pattern
  | [] => ⟨[], false⟩
  | ['\\'] => ⟨[], true⟩
  | '\\' :: c :: cs => let p := ofChars cs; ⟨.literal c :: p.parts, p.unfinished⟩
  | '%' :: cs => let p := ofChars cs; ⟨.any :: p.parts, p.unfinished⟩
  | '_' :: cs => let p := ofChars cs; ⟨.one :: p.parts, p.unfinished⟩
  | c :: cs => let p := ofChars cs; ⟨.literal c :: p.parts, p.unfinished⟩

/-- Two characters agree when the case of ASCII letters does not count. -/
def agrees (c d : Char) : Bool :=
  c.toLower == d.toLower

/-- Any number of characters are passed over until the rest matches. -/
def matchAfter (rest : List Char → Bool) : List Char → Bool
  | [] => rest []
  | c :: cs => rest (c :: cs) || matchAfter rest cs

/-- The parts match a text from its start to its end. -/
def matchParts : List Part → List Char → Bool
  | [], cs => cs.isEmpty
  | .any :: ps, cs => matchAfter (matchParts ps) cs
  | .one :: ps, cs => match cs with
    | _ :: cs => matchParts ps cs
    | [] => false
  | .literal c :: ps, cs => match cs with
    | d :: cs => agrees c d && matchParts ps cs
    | [] => false

/-- The text of a pattern matches a text. -/
def accepts (pattern text : List Char) : Bool :=
  let p := ofChars (read pattern)
  !p.unfinished && matchParts p.parts (read text)

/-- A character that has a meaning in patterns. -/
def isSpecial (c : Char) : Bool :=
  c == '%' || c == '_' || c == '\\'

/-- Characters in a pattern that stand for themselves. -/
def escape (cs : List Char) : List Char :=
  cs.flatMap fun c ↦ if isSpecial c then ['\\', c] else [c]

/-- The pattern of all texts in which a text occurs, whatever the case. -/
def containing (needle : String) : List Char :=
  '%' :: escape (Text.lowercase needle).toList ++ ['%']

/-- How many bytes a pattern may have. -/
def maxBytes : Nat := 50000

/-- The name contains the filter, as the database sees it. -/
def contains (needle : String) (name : String) : Bool :=
  accepts (containing needle) (name.toList.map Char.toLower)

end Pattern

end RuleWatch.Listing
