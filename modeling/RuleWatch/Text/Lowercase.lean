import RuleWatch.Text.Property

/-!
# Lower case

A text in small letters under the full Unicode rules: a capital letter becomes its small letter,
the dotted capital i becomes two characters, and the capital sigma takes its final form at the end
of a word.
-/

namespace RuleWatch.Text

/-- A cased letter comes first when the characters without influence on case are left out. -/
def meetsCased (cs : List Char) : Bool :=
  match cs.dropWhile Property.isCaseIgnorable with
  | c :: _ => Property.isCased c
  | [] => false

/-- The small form of one character between what was read before it, nearest first, and what
follows it. -/
def lowercaseChar (before : List Char) (c : Char) (after : List Char) : List Char :=
  if c = 'Σ' then
    if meetsCased before && !meetsCased after then ['ς'] else ['σ']
  else if c = 'İ' then ['i', Char.ofNat 0x307]
  else [Property.smallLetter c]

/-- The small forms of all characters, given those before them, nearest first. -/
def lowercaseList (before : List Char) : List Char → List Char
  | [] => []
  | c :: cs => lowercaseChar before c cs ++ lowercaseList (c :: before) cs

/-- The text in small letters. -/
def lowercase (s : String) : String :=
  String.ofList (lowercaseList [] s.toList)

end RuleWatch.Text
