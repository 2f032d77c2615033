import RuleWatch.Regex.Escape

/-!
# Sets in brackets

The sets of characters of a regular expression: members, ranges, named sets and sets in sets, with
operations between them. A set is worked out while it is read. Where a set is of bytes, all members
have to be ASCII, and so the set cannot be negated.
-/

namespace RuleWatch.Regex

/-- How deep expressions may be nested. -/
def maxNesting : Nat := 250

namespace Bracket

/-- An operation between two sets. -/
inductive Operation
  | inter
  | diff
  | symmDiff
  deriving DecidableEq, Repr

def Operation.apply : Operation → CharSet → CharSet → CharSet
  | inter, s, t => s.inter t
  | diff, s, t => s.diff t
  | symmDiff, s, t => s.symmDiff t

/-- A set that has been read, and how deep it is nested. -/
structure Operand where
  set : CharSet
  depth : Nat

/-- Members that have been read one after another: their ranges, how many there are, and how deep
they are nested. -/
structure Members where
  ranges : List (Nat × Nat)
  count : Nat
  depth : Nat

namespace Members

def none : Members := ⟨[], 0, 0⟩

/-- The members with one more. -/
def add (m : Members) (ranges : List (Nat × Nat)) (depth : Nat) : Members :=
  ⟨ranges ++ m.ranges, m.count + 1, max m.depth depth⟩

/-- The set of the members; two of them and more make a level of their own. -/
def operand (m : Members) : Operand :=
  ⟨CharSet.ofRanges m.ranges, if m.count ≤ 1 then m.depth else m.depth + 1⟩

end Members

/-- What stands before the members that are being read: a set and an operation, or nothing. -/
abbrev Before := Option (Operand × Operation)

/-- The members and all that are the same but for their case, if case does not count. -/
def foldFor (f : Flags) (s : CharSet) : CharSet :=
  if !f.ignoresCase then s else if f.unicode then s.fold else s.foldAscii

/-- The set of all that stands before the end of the members. -/
def combine (f : Flags) (before : Before) (m : Members) : Operand :=
  match before with
  | .none => m.operand
  | some (left, operation) =>
    let right := m.operand
    ⟨operation.apply (foldFor f left.set) (foldFor f right.set), max left.depth right.depth + 1⟩

/-- The set that is closed by a bracket. -/
def close? (f : Flags) (negated : Bool) (o : Operand) : Option Operand :=
  if negated && !f.unicode then none
  else
    let s := foldFor f o.set
    some ⟨if negated then s.complement else s, o.depth + 1⟩

/-- A named set that stands here after its bracket, and what follows it; a set of bytes is not
negated. Nothing, if no set is named here. -/
def named? (f : Flags) (cs : List Char) : Option (Option CharSet × List Char) :=
  match cs with
  | ':' :: cs =>
    let (negated, cs) := match cs with
      | '^' :: cs => (true, cs)
      | cs => (false, cs)
    let name := String.ofList (cs.takeWhile (· ≠ ':'))
    match cs.dropWhile (· ≠ ':') with
    | ':' :: ']' :: rest => (CharSet.ofName? name).map fun s ↦
      (if negated then if f.unicode then some (foldFor f s).complement else .none
        else some (foldFor f s), rest)
    | _ => .none
  | _ => .none

/-- A character among the members, and what follows it. -/
def member? (f : Flags) (cs : List Char) : Option (Char × List Char) := do
  let (c, rest) ← match cs with
    | [] => none
    | '\\' :: cs => match Escape.read f cs with
      | some (.literal c _, rest) => some (c, rest)
      | _ => none
    | c :: cs => some (c, cs)
  if !f.unicode && 0x80 ≤ c.toNat then none else return (c, rest)

/-- A character or a range among the members, and what follows it. -/
def range? (f : Flags) (cs : List Char) : Option ((Nat × Nat) × List Char) := do
  let (low, cs) ← member? f cs
  match f.skip cs with
  | [] => none
  | '-' :: cs =>
    if f.peek cs = some ']' ∨ f.peek cs = some '-' then return ((low.toNat, low.toNat), '-' :: cs)
    else
      let (high, cs) ← member? f (f.skip cs)
      if low ≤ high then return ((low.toNat, high.toNat), cs) else none
  | cs => return ((low.toNat, low.toNat), cs)

/-- The hyphens at the front. -/
def hyphens (f : Flags) : Nat → Members → List Char → Members × List Char
  | fuel + 1, m, '-' :: cs => hyphens f fuel (m.add [('-'.toNat, '-'.toNat)] 0) (f.skip cs)
  | _, m, cs => (m, cs)

/-- What opens a set after its bracket: a negation, hyphens, and a bracket that closes nothing. -/
def opening (f : Flags) (cs : List Char) : Bool × Members × List Char :=
  let cs := f.skip cs
  let (negated, cs) := match cs with
    | '^' :: cs => (true, f.skip cs)
    | cs => (false, cs)
  match hyphens f cs.length .none cs with
  | (m, ']' :: cs) =>
    if m.count = 0 then (negated, m.add [(']'.toNat, ']'.toNat)] 0, f.skip cs)
    else (negated, m, ']' :: cs)
  | (m, cs) => (negated, m, cs)

/-- An operation at the front, and what follows it. -/
def operation? : List Char → Option (Operation × List Char)
  | '&' :: '&' :: cs => some (.inter, cs)
  | '-' :: '-' :: cs => some (.diff, cs)
  | '~' :: '~' :: cs => some (.symmDiff, cs)
  | _ => none

/-- The rest of a set that has been opened, so many levels inside others; and what follows it. The
first bound is on the number of calls. -/
def rest? (f : Flags) :
    Nat → Nat → Bool → Before → Members → List Char → Option (Operand × List Char)
  | 0, _, _, _, _, _ => none
  | fuel + 1, level, negated, before, m, cs =>
    match f.skip cs with
    | [] => none
    | '[' :: cs =>
      match named? f cs with
      | some (s, rest) => do rest? f fuel level negated before (m.add (← s).ranges 0) rest
      | none =>
        if maxNesting ≤ level then none
        else do
          let (innerNegated, members, cs) := opening f cs
          let (inner, rest) ← rest? f fuel (level + 1) innerNegated none members cs
          rest? f fuel level negated before (m.add inner.set.ranges inner.depth) rest
    | ']' :: cs => do return (← close? f negated (combine f before m), cs)
    | cs =>
      match operation? cs with
      | some (operation, cs) =>
        rest? f fuel level negated (some (combine f before m, operation)) .none cs
      | none => do
        let (r, cs) ← range? f cs
        rest? f fuel level negated before (m.add [r] 0) cs

/-- A set after its bracket, and what follows it. -/
def read? (f : Flags) (cs : List Char) : Option (Operand × List Char) :=
  let (negated, m, rest) := opening f cs
  rest? f (cs.length + 1) 1 negated none m rest

end Bracket

end RuleWatch.Regex
