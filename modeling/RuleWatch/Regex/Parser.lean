import RuleWatch.Regex.Bracket
import RuleWatch.Text.Integer

/-!
# Reading regular expressions

The grammar of regular expressions: alternatives, sequences, repetitions, groups with and without
names, flags, sets of characters in brackets, and escapes. There is no looking around and no
reference to a group. What cannot be said of a text of characters is refused: a byte that is no
character by itself.

The readers take a bound on the number of their calls; `Regex.read?` gives one that no expression
reaches.
-/

namespace RuleWatch.Regex

/-- What has been said before the place where the reader stands. -/
structure Reading where
  flags : Flags
  /-- The names of the groups so far. -/
  names : List String
  /-- How many groups keep what they match. -/
  groups : Nat
  /-- How many groups are open. -/
  level : Nat

/-! ## Repetitions -/

/-- How often something is repeated: at least so many times, and at most so many if there is a
limit; rather fewer than more, if lazy. -/
structure Times where
  least : Nat
  most : Option Nat
  lazy : Bool

/-- The greatest number of repetitions that can be written. -/
def maxCount : Nat := 4294967295

/-- A number with blanks around it. -/
def count? (f : Flags) (cs : List Char) : Option (Nat × List Char) := do
  let (digits, rest) := f.takeWhile Char.isDigit cs.length (cs.dropWhile Text.isBlank)
  let n ← Text.nat? digits
  if maxCount < n then none else return (n, rest.dropWhile Text.isBlank)

/-- The mark of a repetition that takes as little as it can. -/
def lazyMark : List Char → Bool × List Char
  | '?' :: cs => (true, cs)
  | cs => (false, cs)

/-- The end of the counts of a repetition, and the mark that may follow it. -/
def counted? (f : Flags) (least : Nat) (most : Option Nat) :
    List Char → Option (Times × List Char)
  | '\x7d' :: rest =>
    let (lazy, rest) := lazyMark (f.skip rest)
    if most.all (least ≤ ·) then some (⟨least, most, lazy⟩, rest) else none
  | _ => none

/-- What stands in braces after an expression, and the rest. -/
def counts? (f : Flags) (cs : List Char) : Option (Times × List Char) := do
  let (least, cs) ← count? f (f.skip cs)
  match cs with
  | ',' :: cs =>
    match f.skip cs with
    | '\x7d' :: rest => counted? f least none ('\x7d' :: rest)
    | cs =>
      let (most, cs) ← count? f cs
      counted? f least most cs
  | cs => counted? f least least cs

/-- The mark of a repetition, and the rest. -/
def repetition? (f : Flags) : List Char → Option (Times × List Char)
  | '*' :: cs => some (⟨0, none, (lazyMark cs).1⟩, (lazyMark cs).2)
  | '?' :: cs => some (⟨0, some 1, (lazyMark cs).1⟩, (lazyMark cs).2)
  | '+' :: cs => some (⟨1, none, (lazyMark cs).1⟩, (lazyMark cs).2)
  | '\x7b' :: cs => counts? f cs
  | _ => none

/-! ## Groups -/

/-- A character that the name of a group can begin with. -/
def isNameStart (c : Char) : Bool :=
  c == '_' || Text.Property.isAlphabetic c

/-- A character that the name of a group can go on with. -/
def isNameChar (c : Char) : Bool :=
  c == '_' || c == '.' || c == '[' || c == ']' || Text.Property.isAlphanumeric c

/-- The name of a group up to its bracket. -/
def groupName? (cs : List Char) : Option (String × List Char) :=
  let name := cs.takeWhile (· ≠ '>')
  match name, cs.dropWhile (· ≠ '>') with
  | c :: name, _ :: rest =>
    if isNameStart c && name.all isNameChar then some (String.ofList (c :: name), rest) else none
  | _, _ => none

/-- How a group opens. -/
inductive Opening
  /-- A group with an expression inside it, and its number if what it matches is kept. -/
  | group (number : Option Nat) (r : Reading) (rest : List Char)
  /-- Flags for what follows. -/
  | flags (r : Reading) (rest : List Char)

/-- A group that keeps what it matches. -/
def keeping (r : Reading) (rest : List Char) : Opening :=
  .group (some r.groups) { r with groups := r.groups + 1 } rest

/-- A group that has a name of its own. -/
def namedOpening? (r : Reading) (cs : List Char) : Option Opening := do
  let (name, rest) ← groupName? cs
  if name ∈ r.names then none else return keeping { r with names := name :: r.names } rest

/-- What follows an opening parenthesis. -/
def opening? (r : Reading) (cs : List Char) : Option Opening :=
  match r.flags.skip cs with
  | '?' :: 'P' :: '<' :: cs => namedOpening? r cs
  | '?' :: '<' :: cs =>
    match cs with
    | '=' :: _ | '!' :: _ => none
    | cs => namedOpening? r cs
  | '?' :: cs => do
    let (flags, cs) ← Flags.read? true [] cs
    let r' := { r with flags := flags.foldl Flags.set r.flags }
    match cs with
    | ':' :: rest => return .group none r' rest
    | _ :: rest => if flags.isEmpty then none else return .flags r' rest
    | [] => none
  | cs => some (keeping r cs)

/-! ## Expressions -/

/-- The set that the expression is for one character out of it. -/
def ofSet (f : Flags) (s : CharSet) : Regex :=
  set s f.unicode 0

/-- The expression of a character: if case does not count, of all that are the same but for it. -/
def ofChar (f : Flags) (c : Char) : Regex :=
  let s := Bracket.foldFor f (.singleton c)
  if s = .singleton c then char c else ofSet f s

/-- The expression of a character that has been given by its escape. A byte that is no character is
refused. -/
def ofLiteral? (f : Flags) (c : Char) (isByte : Bool) : Option Regex :=
  if !f.unicode && isByte && 0x80 ≤ c.toNat then none else some (ofChar f c)

/-- The expression of any character in a line, or of any at all. -/
def dot? (f : Flags) : Option Regex :=
  if !f.unicode then none
  else if f.dotAll then some (ofSet f .all)
  else if f.crlf then some (ofSet f (CharSet.ofChars ['\n', '\r']).complement)
  else some (ofSet f (CharSet.singleton '\n').complement)

mutual

/-- Parts one after another, after those already read, last first. Flags among the parts hold to
the end of the group. -/
def sequence? : Nat → Reading → List Regex → List Char → Option (Regex × Reading × List Char)
  | 0, _, _, _ => none
  | fuel + 1, r, parts, cs =>
    let f := r.flags
    match f.skip cs with
    | [] => some (ofParts parts.reverse, r, [])
    | ')' :: cs => some (ofParts parts.reverse, r, ')' :: cs)
    | '|' :: cs => some (ofParts parts.reverse, r, '|' :: cs)
    | '(' :: cs => do
      match ← opening? r cs with
      | .flags r rest => sequence? fuel r (.empty :: parts) rest
      | .group number inner rest =>
        if maxNesting ≤ r.level then none
        else
          match ← alternatives? fuel { inner with level := r.level + 1 } [] rest with
          | (e, after, ')' :: rest) =>
            sequence? fuel { r with names := after.names, groups := after.groups }
              (.group number e :: parts) rest
          | _ => none
    | '[' :: cs => do
      let (o, rest) ← Bracket.read? f cs
      sequence? fuel r (.set o.set f.unicode o.depth :: parts) rest
    | '\\' :: cs => do
      match ← Escape.read f cs with
      | (.look condition, rest) => sequence? fuel r (.look condition :: parts) rest
      | (.literal c isByte, rest) => sequence? fuel r ((← ofLiteral? f c isByte) :: parts) rest
    | '^' :: cs =>
      sequence? fuel r (.look (if f.multiLine then .lineStart f.crlf else .textStart) :: parts) cs
    | '$' :: cs =>
      sequence? fuel r (.look (if f.multiLine then .lineEnd f.crlf else .textEnd) :: parts) cs
    | '.' :: cs => do sequence? fuel r ((← dot? f) :: parts) cs
    | c :: cs =>
      if c ∈ ['*', '+', '?', '\x7b'] then
        match parts with
        | [] | .empty :: _ => none
        | part :: parts => do
          let (times, rest) ← repetition? f (c :: cs)
          let lazy := times.lazy != f.prefersFewer
          sequence? fuel r (.repeated times.least times.most lazy part :: parts) rest
      else sequence? fuel r (ofChar f c :: parts) cs

/-- Alternatives, after those already read, last first. -/
def alternatives? : Nat → Reading → List Regex → List Char → Option (Regex × Reading × List Char)
  | 0, _, _, _ => none
  | fuel + 1, r, before, cs => do
    match ← sequence? fuel r [] cs with
    | (part, r, '|' :: rest) => alternatives? fuel r (part :: before) rest
    | (part, r, rest) => return (ofAlternatives (part :: before).reverse, r, rest)

end

/-- The regular expression that is written in a text, if one is, nested no deeper than it may be. -/
def read? (cs : List Char) : Option Regex := do
  match ← alternatives? (2 * cs.length + 3) ⟨{}, [], 1, 0⟩ [] cs with
  | (e, _, []) => if e.height ≤ maxNesting then return e else none
  | _ => none

end RuleWatch.Regex
