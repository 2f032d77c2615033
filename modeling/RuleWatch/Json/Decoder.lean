import RuleWatch.Json.Scan

/-!
# Decoding JSON

Reading records, lists and scalars from the outline of a text. The first fault in reading order
decides: either the text is not JSON at that place, or it is and says something of the wrong kind.

A record is read from an object, or from an array that gives its fields in their order. Keys that
the record does not know are passed over, their values checked for nothing but their shape. A known
key that comes a second time is a fault.
-/

namespace RuleWatch.Json

/-- Why a text does not decode. -/
inductive Fault
  /-- The text is no JSON, or holds a number or a string without a value. -/
  | text
  /-- The text is JSON so far, but not of the kind that is asked for. -/
  | shape
  deriving DecidableEq, Repr, Inhabited

/-- A way to read a value of a type. -/
abbrev Decoder (α : Type) := Outline → Except Fault α

namespace Decoder

/-- The fault of a value that is of another kind than the one asked for. -/
def mismatch : Outline → Fault
  | .broken | .number none | .string none => .text
  | _ => .shape

def string : Decoder String
  | .string (some s) => .ok s
  | o => .error (mismatch o)

/-- An integer of a signed 64-bit word. -/
def int64 : Decoder Int
  | .number (some (.int n)) => if n ≤ Text.maxInt64 then .ok n else .error .shape
  | o => .error (mismatch o)

/-- An integer of an unsigned 64-bit word. -/
def uint64 : Decoder Nat
  | .number (some (.int n)) => if 0 ≤ n then .ok n.toNat else .error .shape
  | o => .error (mismatch o)

/-- A number, as a double. -/
def double : Decoder Double
  | .number (some n) => .ok n.toDouble
  | o => .error (mismatch o)

/-- Null, or what the decoder reads. -/
def nullable {α : Type} (d : Decoder α) : Decoder (Option α)
  | .null => .ok none
  | o => (d o).map some

/-- The values of an array, one after another. -/
def items {α : Type} (d : Decoder α) (whole : Bool) : List Outline → Except Fault (List α)
  | [] => if whole then .ok [] else .error .text
  | o :: os => do
    let a ← d o
    let as ← items d whole os
    return a :: as

/-- An array of values of one type. -/
def list {α : Type} (d : Decoder α) : Decoder (List α)
  | .array os whole => items d whole os
  | o => .error (mismatch o)

/-- An object that gives a value to each of its keys. -/
def entries {α : Type} (d : Decoder α) (whole : Bool) :
    List Entry → Except Fault (List (String × α))
  | [] => if whole then .ok [] else .error .text
  | (none, _) :: _ => .error .text
  | (some key, o) :: os => do
    let a ← d o
    let as ← entries d whole os
    return (key, a) :: as

/-- An object whose keys are free. -/
def map {α : Type} (d : Decoder α) : Decoder (List (String × α))
  | .object os whole => entries d whole os
  | o => .error (mismatch o)

/-- Any value, with at most `room` containers inside one another. -/
def value : Nat → Decoder Json
  | _, .null => .ok .null
  | _, .bool b => .ok (.bool b)
  | _, .number (some n) => .ok (.number n)
  | _, .string (some s) => .ok (.string s)
  | _, .broken | _, .number none | _, .string none => .error .text
  | 0, .array .. | 0, .object .. => .error .text
  | room + 1, .array os whole => (items (value room) whole os).map .array
  | room + 1, .object os whole => (entries (value room) whole os).map ofMembers

/-- How many containers a text may nest. -/
def maxDepth : Nat := 127

/-- Any value that is a member of a record. -/
def member : Decoder Json := value (maxDepth - 1)

/-- Decodes a text, which must end with the value. -/
def ofBytes {α : Type} (d : Decoder α) (bytes : Bytes) : Except Fault α := do
  let (outline, whole) := scan bytes
  let a ← d outline
  if whole then return a else throw .text

/-- Decodes a value that has been read already. -/
def ofJson {α : Type} (d : Decoder α) (v : Json) : Except Fault α :=
  d (.ofJson v)

end Decoder

/-- A field of a record: the keys that it goes by, the first of them its name, whether a record
given as an array may end before it, and what makes its value acceptable. -/
structure Field where
  name : String
  otherKeys : List String
  mayEndBefore : Bool
  check : Outline → Except Fault Unit

/-- The fields of a record that have been found, by their names. -/
abbrev Found := List (String × Outline)

/-- A way to read a record: its fields in order, and the record that the found fields make. -/
structure Record (α : Type) where
  fields : List Field
  build : Found → Except Fault α

namespace Record

/-- The value of a field that is there, or what stands for an absent one. -/
def fieldValue {α : Type} (name : String) (d : Decoder α) (absent : Except Fault α)
    (found : Found) : Except Fault α :=
  match found.lookup name with
  | some o => d o
  | none => absent

/-- A field that must be there. -/
def required {α : Type} (name : String) (d : Decoder α) : Record α where
  fields := [⟨name, [], false, fun o ↦ (d o).map fun _ ↦ ()⟩]
  build := fieldValue name d (.error .shape)

/-- A field that may be null, or left out of an object. -/
def optional {α : Type} (name : String) (d : Decoder α) : Record (Option α) where
  fields := [⟨name, [], false, fun o ↦ (d.nullable o).map fun _ ↦ ()⟩]
  build := fieldValue name d.nullable (.ok none)

/-- A field that has a value of its own when it is left out. It may also go by other keys. -/
def defaulted {α : Type} (name : String) (otherKeys : List String) (d : Decoder α) (absent : α) :
    Record α where
  fields := [⟨name, otherKeys, true, fun o ↦ (d o).map fun _ ↦ ()⟩]
  build := fieldValue name d (.ok absent)

instance : Applicative Record where
  pure a := ⟨[], fun _ ↦ .ok a⟩
  seq f a :=
    let r := a ()
    ⟨f.fields ++ r.fields, fun found ↦ do
      let g ← f.build found
      let x ← r.build found
      return g x⟩

/-- The field that goes by a key. -/
def field? (fields : List Field) (key : String) : Option Field :=
  fields.find? fun f ↦ f.name == key || f.otherKeys.contains key

/-- The fields that an object gives, in reading order. -/
def findEntries (fields : List Field) (whole : Bool) (found : Found) :
    List Entry → Except Fault Found
  | [] => if whole then .ok found else .error .text
  | (none, _) :: _ => .error .text
  | (some key, o) :: os =>
    match field? fields key with
    | none => if o.isWhole then findEntries fields whole found os else .error .text
    | some f =>
      if (found.lookup f.name).isSome then .error .shape
      else do
        f.check o
        findEntries fields whole ((f.name, o) :: found) os

/-- The fields that an array gives, by their order. -/
def findItems (whole : Bool) : List Field → List Outline → Except Fault Found
  | [], [] => if whole then .ok [] else .error .text
  | [], _ :: _ => .error .text
  | f :: fs, [] =>
    if !whole then .error .text
    else if f.mayEndBefore then findItems whole fs []
    else .error .shape
  | f :: fs, o :: os => do
    f.check o
    let found ← findItems whole fs os
    return (f.name, o) :: found

/-- Reads the record from an object. -/
def ofEntries {α : Type} (r : Record α) (entries : List Entry) (whole : Bool) :
    Except Fault α := do
  r.build (← findEntries r.fields whole [] entries)

/-- Reads the record from an object, or from an array of its fields. -/
def decoder {α : Type} (r : Record α) : Decoder α
  | .object entries whole => r.ofEntries entries whole
  | .array items whole => do r.build (← findItems whole r.fields items)
  | o => .error (Decoder.mismatch o)

end Record

end RuleWatch.Json
