import RuleWatch.Regex.Basic
import RuleWatch.Text.Utf8

/-!
# Normal forms of regular expressions

The form in which a regular expression is made into a machine: characters in a row are one text,
sequences stand in no other sequence and alternatives in no other alternatives, what can be said as
a set is one, and what several alternatives begin with stands before them.
-/

namespace RuleWatch.Regex

/-- A regular expression in normal form. -/
inductive Normal
  | empty
  /-- Characters in a row, at least one. -/
  | text (cs : List Char)
  | set (s : CharSet) (unicode : Bool)
  | look (condition : Look)
  | capture (number : Nat) (inner : Normal)
  | repeated (least : Nat) (most : Option Nat) (lazy : Bool) (inner : Normal)
  | concat (parts : List Normal)
  | alternatives (parts : List Normal)
  deriving Inhabited

namespace Normal

mutual

/-- The expressions are the same. -/
def same : Normal → Normal → Bool
  | empty, empty => true
  | text cs, text ds => cs == ds
  | set s u, set t v => s == t && u == v
  | look a, look b => a == b
  | capture m a, capture n b => m == n && same a b
  | repeated l m z a, repeated l' m' z' b => l == l' && m == m' && z == z' && same a b
  | concat ps, concat qs | alternatives ps, alternatives qs => allSame ps qs
  | _, _ => false

/-- The expressions are the same, one by one. -/
def allSame : List Normal → List Normal → Bool
  | [], [] => true
  | p :: ps, q :: qs => same p q && allSame ps qs
  | _, _ => false

end

mutual

/-- Nothing but the empty text matches. -/
def matchesOnlyEmpty : Normal → Bool
  | empty | look _ => true
  | text _ | set _ _ => false
  | capture _ inner => inner.matchesOnlyEmpty
  | repeated _ most _ inner => most.isSome && inner.matchesOnlyEmpty
  | concat parts | alternatives parts => allMatchOnlyEmpty parts

/-- Nothing but the empty text matches any of them. -/
def allMatchOnlyEmpty : List Normal → Bool
  | [] => true
  | part :: parts => part.matchesOnlyEmpty && allMatchOnlyEmpty parts

end

mutual

/-- The least number of bytes that match, if it is known that any do. -/
def leastLength? : Normal → Option Nat
  | empty | look _ => some 0
  | text cs => some (Text.utf8Length cs)
  | set s _ => s.ranges.head?.map fun r ↦ (Char.ofNat r.1).utf8Size
  | capture _ inner => inner.leastLength?
  | repeated least _ _ inner => inner.leastLength?.map (· * least)
  | concat parts => sumLeastLength? parts
  | alternatives parts => minLeastLength? parts

/-- The sum of the lengths, if all are known. -/
def sumLeastLength? : List Normal → Option Nat
  | [] => some 0
  | part :: parts => do return (← part.leastLength?) + (← sumLeastLength? parts)

/-- The least of the lengths, if all are known. -/
def minLeastLength? : List Normal → Option Nat
  | [] => none
  | [part] => part.leastLength?
  | part :: parts => do return min (← part.leastLength?) (← minLeastLength? parts)

end

/-! ## Building -/

/-- A set of characters; one of a single member is a text. -/
def ofSet (s : CharSet) (unicode : Bool) : Normal :=
  match s.only? with
  | some c => text [c]
  | none => set s (unicode && !s.isEmpty)

/-- A repetition. To repeat what matches the empty text only is to have it once or not at all. -/
def ofTimes (least : Nat) (most : Option Nat) (lazy : Bool) (inner : Normal) : Normal :=
  let (least, most) :=
    if inner.matchesOnlyEmpty then (min least 1, some (min (most.getD 1) 1)) else (least, most)
  match least, most with
  | 0, some 0 => empty
  | 1, some 1 => inner
  | _, _ => repeated least most lazy inner

/-- A part before others, joined with a text at their front if it is one. -/
def joinPart (part : Normal) (parts : List Normal) : List Normal :=
  match part, parts with
  | text cs, text ds :: rest => text (cs ++ ds) :: rest
  | part, parts => part :: parts

/-- The parts of an expression, if it is a sequence. -/
def parts : Normal → List Normal
  | empty => []
  | concat parts => parts
  | e => [e]

/-- A sequence. -/
def ofParts (es : List Normal) : Normal :=
  match (es.flatMap parts).foldr joinPart [] with
  | [] => empty
  | [e] => e
  | es => concat es

/-- The alternatives of an expression. -/
def choices : Normal → List Normal
  | alternatives es => es
  | e => [e]

/-- The character that an expression stands for, if it is a text of one. -/
def char? : Normal → Option Char
  | text [c] => some c
  | _ => none

/-- The set that an expression is. -/
def set? : Normal → Option CharSet
  | set s _ => some s
  | _ => none

/-- The parts of a sequence. -/
def concat? : Normal → Option (List Normal)
  | concat parts => some parts
  | _ => none

/-- What both lists begin with. -/
def commonFront : List Normal → List Normal → List Normal
  | p :: ps, q :: qs => if same p q then p :: commonFront ps qs else []
  | _, _ => []

/-- What all sequences begin with. -/
def sharedFront : List (List Normal) → List Normal
  | [] => []
  | front :: rest => rest.foldl commonFront front

/-- Alternatives. The bound is on how often something is taken out in front of them. -/
def ofChoicesWithin : Nat → List Normal → Normal
  | fuel, es =>
    match es.flatMap choices with
    | [e] => e
    | es =>
      match es.mapM char?, es.mapM set?, es.mapM concat?, fuel with
      | some cs, _, _, _ => ofSet (CharSet.ofChars cs) true
      | _, some ss, _, _ => ofSet (ss.foldl CharSet.union ⟨[]⟩) true
      | _, _, some sequences, fuel + 1 =>
        match sharedFront sequences with
        | [] => alternatives es
        | front =>
          ofParts (front ++ [ofChoicesWithin fuel
            (sequences.map fun s ↦ ofParts (s.drop front.length))])
      | _, _, _, _ => alternatives es

mutual

/-- How many expressions there are in an expression. -/
def count : Normal → Nat
  | empty | text _ | set _ _ | look _ => 1
  | capture _ inner | repeated _ _ _ inner => inner.count + 1
  | concat parts | alternatives parts => totalCount parts + 1

/-- How many expressions there are in all of them. -/
def totalCount : List Normal → Nat
  | [] => 0
  | part :: parts => part.count + totalCount parts

end

/-- Alternatives. -/
def ofChoices (es : List Normal) : Normal :=
  ofChoicesWithin (totalCount es) es

end Normal

mutual

/-- The normal form of an expression. -/
def normal : Regex → Normal
  | empty => .empty
  | char c => .text [c]
  | set s unicode _ => .ofSet s unicode
  | look condition => .look condition
  | group none inner => inner.normal
  | group (some number) inner => .capture number inner.normal
  | repeated least most lazy inner => .ofTimes least most lazy inner.normal
  | concat parts => .ofParts (allNormal parts)
  | alternatives parts => .ofChoices (allNormal parts)

/-- The normal forms of expressions. -/
def allNormal : List Regex → List Normal
  | [] => []
  | part :: parts => part.normal :: allNormal parts

end

end RuleWatch.Regex
