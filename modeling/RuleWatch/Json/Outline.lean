import RuleWatch.Json.Basic

/-!
# Outlines of JSON texts

What a text shows when it is read as JSON: the value as far as it goes, with the place where the
text stops being JSON. Numbers out of range and strings that spell no text are kept as such,
because only a reader that wants their value has to refuse them.
-/

namespace RuleWatch.Json

/-- A JSON text as far as it is one. Items and entries are in reading order; those of a container
that is not `whole` are followed by the break, which may lie inside the last of them. An entry is a
key with its value; without a key, it is what stands in the place of the key. -/
inductive Outline
  | broken
  | null
  | bool (value : Bool)
  | number (value : Option Number)
  | string (value : Option String)
  | array (items : List Outline) (whole : Bool)
  | object (entries : List (Option String × Outline)) (whole : Bool)
  deriving Inhabited

/-- A key with its value, or what stands in the place of a key. -/
abbrev Entry := Option String × Outline

namespace Outline

/-- A key with its value. A string that spells no text is no key. -/
def entry (key : Option String) (value : Outline) : Entry :=
  (key, if key.isSome then value else .string none)

/-- The text does not break inside this value. -/
def isWhole : Outline → Bool
  | .broken => false
  | .array _ whole | .object _ whole => whole
  | _ => true

mutual

/-- The outline of a text of the value. -/
def ofJson : Json → Outline
  | .null => .null
  | .bool b => .bool b
  | .number n => .number (some n)
  | .string s => .string (some s)
  | .array items => .array (ofItems items) true
  | .object members => .object (ofMembers members) true

/-- The outlines of items. -/
def ofItems : List Json → List Outline
  | [] => []
  | item :: items => ofJson item :: ofItems items

/-- The outlines of members with their keys. -/
def ofMembers : List (String × Json) → List Entry
  | [] => []
  | (key, value) :: members => (some key, ofJson value) :: ofMembers members

end

end Outline

end RuleWatch.Json
