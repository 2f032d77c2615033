import RuleWatch.Text.Utf8

/-!
# Media types

Whether a body is said to be JSON: its media type is `application/json`, or an application type
whose name ends in `+json`. Case does not count, and parameters are allowed if they are well-formed.
-/

namespace RuleWatch.Http.MediaType

/-- A character of a name. -/
def isToken (c : Char) : Bool :=
  c.isAlphanum || "!#$%&'*+-.^_`|~".toList.contains c

/-- A character between quotes. -/
def isQuoted (c : Char) : Bool :=
  0x20 ≤ c.toNat && c.toNat != 0x7F

/-- What follows the closing quote of a value with at least one character before it. -/
def quotedRest (empty : Bool) : List Char → Option (List Char)
  | [] => none
  | c :: cs =>
    if c = '"' && !empty then some cs
    else if isQuoted c then quotedRest false cs
    else none

/-- Well-formed parameters after a semicolon. Spaces may stand before a name and after a value in
quotes, and nothing need follow the semicolon. -/
def areParams : Nat → List Char → Bool
  | _, [] => true
  | 0, _ => false
  | fuel + 1, ' ' :: cs => areParams fuel cs
  | fuel + 1, cs =>
    let name := cs.takeWhile fun c ↦ isToken c && c != '='
    match cs.dropWhile fun c ↦ isToken c && c != '=' with
    | '=' :: value =>
      if name.isEmpty then false
      else match value with
        | '"' :: value =>
          match (quotedRest true value).map (·.dropWhile (· = ' ')) with
          | some [] => true
          | some (';' :: rest) => areParams fuel rest
          | _ => false
        | value =>
          match value.dropWhile isToken with
          | [] => true
          | ';' :: rest => !(value.takeWhile isToken).isEmpty && areParams fuel rest
          | _ => false
    | _ => false

/-- The names of the type and of the subtype, and the parameters if there are any. -/
def split (cs : List Char) : Option (List Char × List Char × Option (List Char)) :=
  let kind := cs.takeWhile isToken
  match cs.dropWhile isToken with
  | '/' :: cs =>
    let subtype := cs.takeWhile isToken
    match cs.dropWhile isToken with
    | [] => some (kind, subtype, none)
    | ';' :: params => if subtype.isEmpty then none else some (kind, subtype, some params)
    | _ => none
  | _ => none

/-- The subtype is JSON, by itself or by what stands on either side of its last plus sign. -/
def isJsonSubtype (subtype : List Char) : Bool :=
  let json := ['j', 's', 'o', 'n']
  match subtype with
  | [] => false
  | first :: rest =>
    if rest.contains '+' then
      let suffix := (rest.reverse.takeWhile (· != '+')).reverse
      suffix == json || (first :: rest).take (subtype.length - suffix.length - 1) == json
    else subtype == json

/-- The value of a content-type header says that the body is JSON. -/
def isJson (value : Bytes) : Bool :=
  if value.all fun b ↦ (0x20 ≤ b && b < 0x7F) || b == 0x09 then
    let cs := value.map fun b ↦ Char.ofNat b.toNat
    match split cs with
    | some (kind, subtype, params) =>
      !kind.isEmpty && (params.all fun p ↦ areParams p.length p)
        && kind.map Char.toLower == "application".toList
        && isJsonSubtype (subtype.map Char.toLower)
    | none => false
  else false

end RuleWatch.Http.MediaType
