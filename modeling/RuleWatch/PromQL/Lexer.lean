import RuleWatch.PromQL.Numeral
import RuleWatch.PromQL.Token

/-!
# The tokens of a query expression

How the text of an expression falls into tokens. Inside braces and inside brackets other rules hold
than outside: braces know no keywords but one, which is an `or` with a space after it, and brackets
hold lengths of time with a colon between them.
-/

namespace RuleWatch.PromQL

/-- Where in an expression a token stands. -/
inductive Place
  | outside
  | braces
  /-- Between brackets, before or after their colon. -/
  | brackets (colonSeen : Bool)
  deriving DecidableEq, Repr

/-- What is read at once: a token or none, the place after it, and the rest of the text. -/
structure Piece where
  token : Option Token
  place : Place
  rest : List Char

namespace Lexer

/-- A character between tokens. -/
def isSpace (c : Char) : Bool :=
  c == ' ' || c == '\t' || c == '\n' || c == '\x0c' || c == '\r'

/-- The characters that may follow a backslash, besides the quote. -/
def escapable : List Char :=
  ['a', 'b', 'f', 'n', 'r', 't', 'v', '\\', '0', '1', '2', '3', '4', '5', '6', '7', 'x', 'u', 'U']

/-- The rest of a string after its quote: what is inside, and what follows the closing quote. -/
def splitString (quote : Char) : List Char → Option (List Char × List Char)
  | [] => none
  | '\\' :: c :: cs =>
    if c = quote ∨ c ∈ escapable then
      (splitString quote cs).map fun (inside, rest) ↦ ('\\' :: c :: inside, rest)
    else none
  | c :: cs =>
    if c = quote then some ([], cs)
    else if c = '\\' then none
    else (splitString quote cs).map fun (inside, rest) ↦ (c :: inside, rest)

/-- What follows a comment. -/
def dropComment (cs : List Char) : List Char :=
  cs.dropWhile fun c ↦ c != '\n' && c != '\r'

/-- A sign, with the place after it the same as before. -/
def sign (place : Place) (s : Sign) (rest : List Char) : Option Piece :=
  some ⟨some (.sign s), place, rest⟩

/-- A string after its quote. -/
def string (place : Place) (quote : Char) (cs : List Char) : Option Piece :=
  (splitString quote cs).map fun (inside, rest) ↦ ⟨some (.string inside), place, rest⟩

/-- The token of a word outside of braces. -/
def wordToken (word : List Char) : Token :=
  match Keyword.ofWord? word with
  | some k => .keyword k word
  | none =>
    match String.ofList (word.map Char.toLower) with
    | "inf" => .number (Double.infinity false)
    | "nan" => .number Double.nan
    | _ => if word.contains ':' then .metric word else .name word

/-- A number or a length of time, neither of which may run on into a word. -/
def numberOrDuration (cs : List Char) : Option Piece := do
  let (numeral, rest) := splitNumeral cs
  if rest.head?.all fun c ↦ !isWordChar c then
    return ⟨some (.number (← numeralValue? numeral)), .outside, rest⟩
  else
    let (word, rest) := splitDigits isWordChar cs
    if isDuration word then return ⟨some .duration, .outside, rest⟩ else none

/-- A piece outside of braces and brackets. -/
def outside (c : Char) (cs : List Char) : Option Piece :=
  match c with
  | '#' => some ⟨none, .outside, dropComment cs⟩
  | ',' => sign .outside .comma cs
  | '@' => sign .outside .at cs
  | '(' => sign .outside .leftParen cs
  | ')' => sign .outside .rightParen cs
  | '\x7b' => sign .braces .leftBrace cs
  | '[' => sign (.brackets false) .leftBracket cs
  | '+' => sign .outside .add cs
  | '-' => sign .outside .sub cs
  | '*' => sign .outside .mul cs
  | '/' => sign .outside .div cs
  | '%' => sign .outside .mod cs
  | '^' => sign .outside .pow cs
  | '=' => match cs with
    | '=' :: cs => sign .outside .eq cs
    | cs => sign .outside .is cs
  | '!' => match cs with
    | '=' :: cs => sign .outside .ne cs
    | _ => none
  | '<' => match cs with
    | '=' :: cs => sign .outside .le cs
    | cs => sign .outside .lt cs
  | '>' => match cs with
    | '=' :: cs => sign .outside .ge cs
    | cs => sign .outside .gt cs
  | c =>
    if isSpace c then some ⟨none, .outside, cs⟩
    else if c = '"' ∨ c = '\'' ∨ c = '`' then string .outside c cs
    else if c.isDigit || (c == '.' && (cs.head?.any Char.isDigit)) then numberOrDuration (c :: cs)
    else if c.isAlpha || c == '_' || c == ':' then
      let (word, rest) := splitDigits (fun c ↦ isWordChar c || c == ':') (c :: cs)
      some ⟨some (wordToken word), .outside, rest⟩
    else none

/-- A name inside braces, or the one keyword there. -/
def nameInBraces (cs : List Char) : Piece :=
  let (word, rest) := splitDigits isWordChar cs
  ⟨some (.name word), .braces, rest⟩

/-- A piece inside braces. -/
def inBraces (c : Char) (cs : List Char) : Option Piece :=
  match c with
  | '#' => some ⟨none, .braces, dropComment cs⟩
  | ',' => sign .braces .comma cs
  | '\x7d' => sign .outside .rightBrace cs
  | '=' => match cs with
    | '~' :: cs => sign .braces .matchesRegex cs
    | cs => sign .braces .is cs
  | '!' => match cs with
    | '~' :: cs => sign .braces .missesRegex cs
    | '=' :: cs => sign .braces .ne cs
    | _ => none
  | c =>
    if isSpace c then some ⟨none, .braces, cs⟩
    else if c = '"' ∨ c = '\'' ∨ c = '`' then string .braces c cs
    else if c.isAlpha || c == '_' then
      match c.toLower, cs with
      | 'o', r :: ' ' :: rest =>
        if r.toLower = 'r' then some ⟨some (.keyword .or [c, r]), .braces, ' ' :: rest⟩
        else some (nameInBraces (c :: cs))
      | _, _ => some (nameInBraces (c :: cs))
    else none

/-- A piece inside brackets. -/
def inBrackets (colonSeen : Bool) (c : Char) (cs : List Char) : Option Piece :=
  match c with
  | ']' => sign .outside .rightBracket cs
  | ':' => if colonSeen then none else sign (.brackets true) .colon cs
  | c =>
    if isSpace c then some ⟨none, .brackets colonSeen, cs⟩
    else if c.isDigit then
      let (word, rest) := splitDigits isWordChar (c :: cs)
      if isDuration word then some ⟨some .duration, .brackets colonSeen, rest⟩ else none
    else none

/-- A piece at a place. -/
def piece (place : Place) (c : Char) (cs : List Char) : Option Piece :=
  match place with
  | .outside => outside c cs
  | .braces => inBraces c cs
  | .brackets colonSeen => inBrackets colonSeen c cs

/-- The tokens of a text, after those already read, last first. The text must not end inside braces
or brackets. -/
def tokens : Nat → Place → List Token → List Char → Option (List Token)
  | _, place, before, [] => if place = .outside then some before.reverse else none
  | 0, _, _, _ => none
  | fuel + 1, place, before, c :: cs => do
    let p ← piece place c cs
    tokens fuel p.place (p.token.toList ++ before) p.rest

end Lexer

/-- The tokens of a query expression. -/
def tokens? (s : String) : Option (List Token) :=
  let cs := s.toList
  Lexer.tokens cs.length .outside [] cs

end RuleWatch.PromQL
