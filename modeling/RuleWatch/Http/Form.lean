import RuleWatch.Text.Integer
import RuleWatch.Text.Percent

/-!
# Forms

The parameters of a request as they stand in its target: pairs of a key and a value, with a plus
sign for a space and every byte that may not stand there given by number.
-/

namespace RuleWatch.Http

/-- Keys and values, in the order in which they are given. -/
abbrev Form := List (String × String)

namespace Form

/-- The bytes that a part of a form stands for. -/
def decode (bs : Bytes) : Bytes :=
  Text.Percent.decode (bs.map fun b ↦ if b = 0x2B then 0x20 else b)

/-- The text of a part of a form. -/
def text (bs : Bytes) : String :=
  Text.ofBytesLossy (decode bs)

/-- One pair: the key is what comes before the first equals sign. -/
def pair (bs : Bytes) : String × String :=
  (text (bs.takeWhile (· != 0x3D)), text ((bs.dropWhile (· != 0x3D)).drop 1))

/-- The pieces between ampersands, after the start of the first one, last byte first. -/
def pieces (piece : Bytes) : Bytes → List Bytes
  | [] => [piece.reverse]
  | b :: bs => if b = 0x26 then piece.reverse :: pieces [] bs else pieces (b :: piece) bs

/-- The form of a text. Empty pieces do not count. -/
def ofText (s : String) : Form :=
  ((pieces [] (Text.toBytes s)).filter fun piece ↦ !piece.isEmpty).map pair

/-! ## Reading forms -/

/-- A form that does not say what is asked of it. -/
inductive Fault
  | repeated (key : String)
  | missing (key : String)
  | malformed (key : String)
  deriving DecidableEq, Repr

/-- The value of a key, which must not come twice. -/
def optionalText (form : Form) (key : String) : Except Fault (Option String) :=
  match form.filter fun pair ↦ pair.1 == key with
  | [] => .ok none
  | [(_, value)] => .ok (some value)
  | _ => .error (.repeated key)

/-- The value of a key that must be there. -/
def requiredText (form : Form) (key : String) : Except Fault String := do
  match ← form.optionalText key with
  | some value => return value
  | none => throw (.missing key)

/-- A value read as something. -/
def readAs {α : Type} (key : String) (read : String → Option α) (value : String) :
    Except Fault α :=
  match read value with
  | some a => .ok a
  | none => .error (.malformed key)

/-- An integer that must be there. -/
def requiredInt (form : Form) (key : String) : Except Fault Int := do
  readAs key Text.int64? (← form.requiredText key)

/-- An integer that may be left out. -/
def optionalInt (form : Form) (key : String) : Except Fault (Option Int) := do
  match ← form.optionalText key with
  | some value => return some (← readAs key Text.int64? value)
  | none => return none

end Form

end RuleWatch.Http
