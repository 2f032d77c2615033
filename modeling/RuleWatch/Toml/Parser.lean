import RuleWatch.Toml.Quoted
import RuleWatch.Toml.Scalar

/-!
# Reading settings

A file of settings is a list of lines: headers, and keys with their values. `Table.parse?` reads the
lines and builds up the table that they give.

Values within values are read to a fixed depth. The readers of lists take a bound on the number of
their items, which is the length of the text.
-/

namespace RuleWatch.Toml

/-- How deep values may stand within values, and how many parts a key may have. -/
def maxDepth : Nat := 79

/-- Without the blanks, line breaks and comments at the front. -/
def dropLines : (inComment : Bool) → List Char → List Char
  | _, '\n' :: cs | _, '\r' :: '\n' :: cs => dropLines false cs
  | true, c :: cs => if isLineChar c then dropLines true cs else c :: cs
  | false, c :: cs =>
    if isBlank c then dropLines false cs
    else if c = '#' then dropLines true cs
    else c :: cs
  | _, [] => []

/-- What follows the end of a line, which may have a comment before it. -/
def afterLine? (cs : List Char) : Option (List Char) :=
  let cs := match dropBlanks cs with
    | '#' :: cs => cs.dropWhile isLineChar
    | cs => cs
  if cs.isEmpty then some [] else afterBreak? cs

/-- A key: the parts before the last one, and the last one. -/
def key? (cs : List Char) : Option ((List String × String) × List Char) := do
  let (parts, rest) ← Key.parts? (cs.length + 1) cs
  if maxDepth < parts.length then none
  return ((parts.dropLast, ← parts.getLast?), rest)

/-! ## Values -/

/-- A reader of something at the front of a text. -/
abbrev Reader (α : Type) := List Char → Option (α × List Char)

/-- The items of an array after its bracket, or after a comma. -/
def items? (item : Reader Value) : Nat → List Char → Option (List Value × List Char)
  | fuel + 1, cs =>
    match dropLines false cs with
    | ']' :: rest => some ([], rest)
    | cs => do
      let (v, cs) ← item cs
      match dropLines false cs with
      | ',' :: cs =>
        let (vs, rest) ← items? item fuel cs
        return (v :: vs, rest)
      | ']' :: rest => return ([v], rest)
      | _ => none
  | 0, _ => none

/-- A key, an equals sign and a value. -/
def member? (item : Reader Value) (cs : List Char) :
    Option (((List String × String) × Value) × List Char) := do
  let (key, cs) ← key? cs
  match cs with
  | '=' :: cs =>
    let (v, cs) ← item (dropBlanks cs)
    return ((key, v), dropBlanks cs)
  | _ => none

/-- The members of a table on one line, put into those before them. -/
def members? (item : Reader Value) : Nat → Table → List Char → Option (Table × List Char)
  | fuel + 1, table, cs => do
    let (((path, key), v), cs) ← member? item cs
    let table ← Table.insert key v path table
    match cs with
    | ',' :: cs => members? item fuel table cs
    | '\x7d' :: rest => return (table, rest)
    | _ => none
  | 0, _, _ => none

/-- A value with no more than so many values around what is inside it. -/
def value? : Nat → Reader Value
  | depth, cs =>
    match cs with
    | '"' :: _ | '\'' :: _ => (Quoted.string? cs).map fun (s, rest) ↦ (.string s, rest)
    | '[' :: cs =>
      match depth with
      | 0 => none
      | depth + 1 =>
        (items? (value? depth) (cs.length + 1) cs).map fun (vs, rest) ↦ (.array vs, rest)
    | '\x7b' :: cs =>
      match depth, dropBlanks cs with
      | 0, _ => none
      | _, '\x7d' :: rest => some (.table .value [], rest)
      | depth + 1, cs =>
        (members? (value? depth) cs.length [] cs).map fun (table, rest) ↦
          (.table .value table, rest)
    | cs => Scalar.value? cs

/-! ## Lines -/

/-- What a line says. -/
inductive Line
  | header (path : List String) (key : String)
  | row (path : List String) (key : String)
  | entry (path : List String) (key : String) (value : Value)
  deriving Repr

/-- The line at the front, with its end. -/
def line? (cs : List Char) : Option (Line × List Char) :=
  match cs with
  | '[' :: '[' :: cs => do
    let ((path, key), cs) ← key? cs
    match cs with
    | ']' :: ']' :: cs => return (.row path key, ← afterLine? cs)
    | _ => none
  | '[' :: cs => do
    let ((path, key), cs) ← key? cs
    match cs with
    | ']' :: cs => return (.header path key, ← afterLine? cs)
    | _ => none
  | cs => do
    let (((path, key), v), cs) ← member? (value? maxDepth) cs
    return (.entry path key v, ← afterLine? cs)

/-- All lines of a text. -/
def lines? : Nat → List Char → Option (List Line)
  | fuel + 1, cs =>
    match dropBlanks cs with
    | [] => some []
    | c :: cs =>
      if c = '\n' ∨ c = '\r' ∨ c = '#' then do
        lines? fuel (← afterLine? (c :: cs))
      else do
        let (l, cs) ← line? (c :: cs)
        return l :: (← lines? fuel cs)
  | 0, _ => none

/-- A table with what one more line adds, and the header that the lines after it stand under. -/
def Line.apply (state : Table × List String) : Line → Option (Table × List String)
  | .header path key => do
    let table ← Table.change (Table.openTable key) path state.1
    return (table, path ++ [key])
  | .row path key => do
    let table ← Table.change (Table.openRow key) path state.1
    return (table, path ++ [key])
  | .entry path key value => do
    let table ← Table.change (Table.insert key value path) state.2 state.1
    return (table, state.2)

/-- The table that a text gives. A mark of the byte order at its front does not count. -/
def Table.parse? (s : String) : Option Table := do
  let cs := match s.toList with
    | '\uFEFF' :: cs => cs
    | cs => cs
  let lines ← lines? (cs.length + 1) cs
  let (table, _) ← lines.foldlM Line.apply ([], [])
  return table

end RuleWatch.Toml
