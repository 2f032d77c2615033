import RuleWatch.Text.Digit

/-!
# Strings and keys of settings

Strings stand between single quotes, in which every character stands for itself, or between double
quotes, in which a backslash gives a character by letter or by number. Between three quotes of a
kind a string may go over several lines: a line break right after the opening quotes does not
count, nor do the blanks and line breaks after a backslash that ends a line.

The readers take a bound on the number of their calls, which is the length of the text.
-/

namespace RuleWatch.Toml

/-- A blank within a line. -/
def isBlank (c : Char) : Bool :=
  c == ' ' || c == '\t'

/-- A character of a line: no control character but the tab. -/
def isLineChar (c : Char) : Bool :=
  c == '\t' || (0x20 ≤ c.toNat && c != '\x7f')

/-- Without the blanks at the front. -/
def dropBlanks (cs : List Char) : List Char :=
  cs.dropWhile isBlank

/-- What follows a line break, if there is one at the front. -/
def afterBreak? : List Char → Option (List Char)
  | '\n' :: cs | '\r' :: '\n' :: cs => some cs
  | _ => none

/-- Without a line break at the front. -/
def dropBreak (cs : List Char) : List Char :=
  (afterBreak? cs).getD cs

/-- Without the blanks and line breaks at the front. -/
def dropBreaks : List Char → List Char
  | ' ' :: cs | '\t' :: cs | '\n' :: cs => dropBreaks cs
  | '\r' :: '\n' :: cs => dropBreaks cs
  | cs => cs

namespace Quoted

/-- A character by so many digits. -/
def byNumber? (length : Nat) (cs : List Char) : Option (Char × List Char) := do
  let digits := cs.take length
  if digits.length < length then none
  let c ← Text.charOfNumber? (← Text.ofDigits? 16 digits)
  return (c, cs.drop length)

/-- What follows a backslash. -/
def escape? : List Char → Option (Char × List Char)
  | 'b' :: cs => some ('\x08', cs)
  | 't' :: cs => some ('\t', cs)
  | 'n' :: cs => some ('\n', cs)
  | 'f' :: cs => some ('\x0c', cs)
  | 'r' :: cs => some ('\r', cs)
  | '"' :: cs => some ('"', cs)
  | '\\' :: cs => some ('\\', cs)
  | 'u' :: cs => byNumber? 4 cs
  | 'U' :: cs => byNumber? 8 cs
  | _ => none

/-- The rest of a string on one line, after what has been read of it, last character first. -/
def line? (quote : Char) : Nat → List Char → List Char → Option (String × List Char)
  | fuel + 1, read, c :: cs =>
    if c = quote then some (String.ofList read.reverse, cs)
    else if c = '\\' ∧ quote = '"' then do
      let (c, cs) ← escape? cs
      line? quote fuel (c :: read) cs
    else if isLineChar c then line? quote fuel (c :: read) cs
    else none
  | _, _, _ => none

/-- The blanks and the line break after a backslash that ends a line, and all such that follow. -/
def afterLineEnd? (cs : List Char) : Option (List Char) :=
  (afterBreak? (dropBlanks cs)).map dropBreaks

/-- The rest of a string over several lines. One or two quotes are part of the string, also right
before the three that close it. -/
def lines? (quote : Char) : Nat → List Char → List Char → Option (String × List Char)
  | fuel + 1, read, c :: cs =>
    if c = quote then
      match (c :: cs).takeWhile (· == quote), (c :: cs).dropWhile (· == quote) with
      | [_], rest => lines? quote fuel (quote :: read) rest
      | [_, _], rest => lines? quote fuel (quote :: quote :: read) rest
      | _ :: _ :: _ :: extra, rest =>
        if extra.length ≤ 2 then some (String.ofList (extra ++ read).reverse, rest) else none
      | [], _ => none
    else if c = '\\' ∧ quote = '"' then
      match afterLineEnd? cs with
      | some rest => lines? quote fuel read rest
      | none => do
        let (c, cs) ← escape? cs
        lines? quote fuel (c :: read) cs
    else match afterBreak? (c :: cs) with
      | some rest => lines? quote fuel ('\n' :: read) rest
      | none => if isLineChar c then lines? quote fuel (c :: read) cs else none
  | _, _, _ => none

/-- A string on one line. -/
def lineString? : List Char → Option (String × List Char)
  | '"' :: cs => line? '"' cs.length [] cs
  | '\'' :: cs => line? '\'' cs.length [] cs
  | _ => none

/-- A string. -/
def string? : List Char → Option (String × List Char)
  | '"' :: '"' :: '"' :: cs => lines? '"' (cs.length + 1) [] (dropBreak cs)
  | '\'' :: '\'' :: '\'' :: cs => lines? '\'' (cs.length + 1) [] (dropBreak cs)
  | cs => lineString? cs

end Quoted

namespace Key

/-- A character of a key that stands without quotes. -/
def isBare (c : Char) : Bool :=
  c.isAlphanum || c == '_' || c == '-'

/-- One part of a key, with blanks around it. -/
def part? (cs : List Char) : Option (String × List Char) :=
  let cs := dropBlanks cs
  match cs.takeWhile isBare with
  | [] => (Quoted.lineString? cs).map fun (part, rest) ↦ (part, dropBlanks rest)
  | bare => some (String.ofList bare, dropBlanks (cs.dropWhile isBare))

/-- Parts of a key with dots between them. -/
def parts? : Nat → List Char → Option (List String × List Char)
  | fuel + 1, cs => do
    let (part, cs) ← part? cs
    match cs with
    | '.' :: cs =>
      let (parts, cs) ← parts? fuel cs
      return (part :: parts, cs)
    | cs => return ([part], cs)
  | 0, _ => none

end Key

end RuleWatch.Toml
