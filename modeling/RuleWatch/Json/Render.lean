import RuleWatch.Double.Shortest
import RuleWatch.Json.Basic
import RuleWatch.Text.Quoted

/-!
# JSON texts

The compact text of a value: no blanks, and only the characters escaped that have to be. A double
has the fewest digits that read back; it is written without an exponent from `0.00001` up to below
`10 ^ 16`. What is not finite is written as null.
-/

namespace RuleWatch.Json

/-- One character of a string. -/
def renderChar (c : Char) : List Char :=
  match c with
  | '"' => ['\\', '"']
  | '\\' => ['\\', '\\']
  | '\n' => ['\\', 'n']
  | '\r' => ['\\', 'r']
  | '\t' => ['\\', 't']
  | '\x08' => ['\\', 'b']
  | '\x0c' => ['\\', 'f']
  | c =>
    if c.toNat < 0x20 then
      let digits := Text.hexDigits c.toNat
      ['\\', 'u'] ++ List.replicate (4 - digits.length) '0' ++ digits
    else [c]

/-- A string with its quotes. -/
def renderString (s : String) : List Char :=
  '"' :: s.toList.flatMap renderChar ++ ['"']

/-- Digits with a point after the first so many of them. Zeros fill up what is missing. -/
def renderPositional (digits : List Char) (point : Int) : List Char :=
  if point ≤ 0 then ['0', '.'] ++ List.replicate (-point).toNat '0' ++ digits
  else
    let whole := digits.take point.toNat
    let fraction := digits.drop point.toNat
    whole ++ List.replicate (point.toNat - digits.length) '0' ++ ['.']
      ++ (if fraction.isEmpty then ['0'] else fraction)

/-- A positive finite double. -/
def renderMagnitude (d : Double) : List Char :=
  let s := d.shortest
  let digits := (toString s.digits).toList
  let point := s.exp + digits.length
  if -5 < point ∧ point ≤ 16 then renderPositional digits point
  else
    let fraction := digits.drop 1
    digits.take 1 ++ (if fraction.isEmpty then [] else '.' :: fraction)
      ++ 'e' :: (toString (point - 1)).toList

/-- A double. -/
def renderDouble (d : Double) : List Char :=
  if !d.isFinite then "null".toList
  else
    let sign := if d.isNegative then ['-'] else []
    if d.isZero then sign ++ ['0', '.', '0']
    else sign ++ renderMagnitude (Double.ofMagnitude false (d.bits.toNat % Nat.pow 2 63))

mutual

/-- The text of a value. -/
def render : Json → List Char
  | .null => "null".toList
  | .bool true => "true".toList
  | .bool false => "false".toList
  | .number (.int n) => (toString n).toList
  | .number (.double d) => renderDouble d
  | .string s => renderString s
  | .array [] => "[]".toList
  | .array (item :: items) => '[' :: render item ++ renderItems items
  | .object [] => ['\x7b', '\x7d']
  | .object ((key, value) :: members) =>
    '\x7b' :: renderString key ++ ':' :: render value ++ renderMembers members

/-- The items after the first, and the closing bracket. -/
def renderItems : List Json → List Char
  | [] => [']']
  | item :: items => ',' :: render item ++ renderItems items

/-- The members after the first, and the closing brace. -/
def renderMembers : List (String × Json) → List Char
  | [] => ['\x7d']
  | (key, value) :: members =>
    ',' :: renderString key ++ ':' :: render value ++ renderMembers members

end

/-- The text of a value. -/
def toText (v : Json) : String :=
  String.ofList (render v)

end RuleWatch.Json
