import RuleWatch.Text.Property

/-!
# Sets of characters

What stands between brackets in a regular expression: sets of characters as ranges of code points,
with the operations that can be written between them, and the members that differ from others in
case only.
-/

namespace RuleWatch.Regex

/-- A set of characters, as closed ranges of code points. The functions below keep the ranges in
rising order, with a gap between each and the next, and with no surrogate at an end. -/
structure CharSet where
  ranges : List (Nat × Nat)
  deriving DecidableEq, Repr, Inhabited

namespace CharSet

/-- The greatest code point. -/
def last : Nat := 0x10FFFF

/-- The first of the code points that are no characters. -/
def firstSurrogate : Nat := 0xD800

/-- The last of the code points that are no characters. -/
def lastSurrogate : Nat := 0xDFFF

/-- The range without surrogates at its ends, if anything is left of it. -/
def trimRange : Nat × Nat → Option (Nat × Nat)
  | (low, high) =>
    let low := if firstSurrogate ≤ low ∧ low ≤ lastSurrogate then lastSurrogate + 1 else low
    let high := if firstSurrogate ≤ high ∧ high ≤ lastSurrogate then firstSurrogate - 1 else high
    if low ≤ high then some (low, high) else none

/-- Ranges in rising order of their first members, joined where they touch. -/
def joinRanges (r : Nat × Nat) : List (Nat × Nat) → List (Nat × Nat)
  | [] => [r]
  | s :: rest =>
    if s.1 ≤ r.2 + 1 then joinRanges (r.1, max r.2 s.2) rest else r :: joinRanges s rest

/-- The set of the members of ranges. -/
def ofRanges (ranges : List (Nat × Nat)) : CharSet :=
  match (ranges.filterMap trimRange).mergeSort fun r s ↦ r.1 < s.1 || (r.1 == s.1 && r.2 ≤ s.2) with
  | [] => ⟨[]⟩
  | r :: rest => ⟨joinRanges r rest⟩

/-- The set of one character. -/
def singleton (c : Char) : CharSet :=
  ⟨[(c.toNat, c.toNat)]⟩

def isEmpty (s : CharSet) : Bool :=
  s.ranges.isEmpty

/-- The code point is a member. -/
def contains (s : CharSet) (n : Nat) : Bool :=
  s.ranges.any fun (low, high) ↦ low ≤ n && n ≤ high

/-- All members are ASCII. -/
def isAscii (s : CharSet) : Bool :=
  s.ranges.all fun r ↦ r.2 < 0x80

/-- The only member, if there is one. -/
def only? (s : CharSet) : Option Char :=
  match s.ranges with
  | [(low, high)] => if low = high then some (Char.ofNat low) else none
  | _ => none

def union (s t : CharSet) : CharSet :=
  ofRanges (s.ranges ++ t.ranges)

/-- The gaps between ranges in rising order, from a code point on. -/
def gaps (start : Nat) : List (Nat × Nat) → List (Nat × Nat)
  | [] => if start ≤ last then [(start, last)] else []
  | (low, high) :: rest =>
    if start < low then (start, low - 1) :: gaps (high + 1) rest else gaps (high + 1) rest

/-- All characters but the members. -/
def complement (s : CharSet) : CharSet :=
  ofRanges (gaps 0 s.ranges)

def inter (s t : CharSet) : CharSet :=
  (s.complement.union t.complement).complement

def diff (s t : CharSet) : CharSet :=
  s.inter t.complement

/-- The members of one of the sets only. -/
def symmDiff (s t : CharSet) : CharSet :=
  (s.diff t).union (t.diff s)

/-- The members, and all characters that differ from one of them in case only. -/
def fold (s : CharSet) : CharSet :=
  let s := s.union (ofRanges <| Text.Property.folded.filterMap fun (n, stands) ↦
    if s.contains n then some (stands, stands) else none)
  s.union (ofRanges <| Text.Property.folded.filterMap fun (n, stands) ↦
    if s.contains stands then some (n, n) else none)

/-- The capital letters of ASCII. -/
def capitals : CharSet := ⟨[(0x41, 0x5A)]⟩

/-- The small letters of ASCII. -/
def smalls : CharSet := ⟨[(0x61, 0x7A)]⟩

/-- How far a small letter of ASCII is from the capital one. -/
def caseDistance : Nat := 0x20

/-- The members, and the letters of ASCII that differ from one of them in case only. -/
def foldAscii (s : CharSet) : CharSet :=
  ofRanges <| s.ranges ++ ((s.inter capitals).ranges.map fun (low, high) ↦
      (low + caseDistance, high + caseDistance))
    ++ ((s.inter smalls).ranges.map fun (low, high) ↦ (low - caseDistance, high - caseDistance))

/-- All characters. -/
def all : CharSet := ⟨[(0, last)]⟩

/-- The set of some characters. -/
def ofChars (cs : List Char) : CharSet :=
  ofRanges (cs.map fun c ↦ (c.toNat, c.toNat))

/-- The set of ASCII that has a name. -/
def ofName? (name : String) : Option CharSet :=
  let range (low high : Char) := (low.toNat, high.toNat)
  let digits := range '0' '9'
  let letters := [range 'A' 'Z', range 'a' 'z']
  match name with
  | "alnum" => some (ofRanges (digits :: letters))
  | "alpha" => some (ofRanges letters)
  | "ascii" => some ⟨[(0, 0x7F)]⟩
  | "blank" => some (ofChars ['\t', ' '])
  | "cntrl" => some (ofRanges [(0, 0x1F), (0x7F, 0x7F)])
  | "digit" => some ⟨[digits]⟩
  | "graph" => some ⟨[range '!' '~']⟩
  | "lower" => some ⟨[range 'a' 'z']⟩
  | "print" => some ⟨[range ' ' '~']⟩
  | "punct" => some (ofRanges [range '!' '/', range ':' '@', range '[' '`', (0x7B, 0x7E)])
  | "space" => some (ofChars ['\t', '\n', '\x0b', '\x0c', '\r', ' '])
  | "upper" => some ⟨[range 'A' 'Z']⟩
  | "word" => some (ofRanges (range '_' '_' :: digits :: letters))
  | "xdigit" => some (ofRanges [digits, range 'A' 'F', range 'a' 'f'])
  | _ => none

end CharSet

end RuleWatch.Regex
