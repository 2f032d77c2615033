import RuleWatch.Regex.CharSet

/-!
# Sets of characters byte by byte

A range of characters in UTF-8 is a few sequences of ranges of bytes, each for characters of one
length that agree in their leading bytes or take all values in those that follow. The sequences of
a set are in rising order.
-/

namespace RuleWatch.Regex

/-- A closed range of bytes. -/
abbrev ByteRange := Nat × Nat

/-- A range in two, after a code point that lies in it and is not its end. -/
def cutAfter (n : Nat) : Nat × Nat → List (Nat × Nat)
  | (low, high) => if low ≤ n ∧ n < high then [(low, n), (n + 1, high)] else [(low, high)]

/-- The greatest characters of one, two and three bytes. -/
def lengthEnds : List Nat := [0x7F, 0x7FF, 0xFFFF]

/-- A range in up to three, of which the first and the last lie in one block each, and the second
is made of whole blocks. Characters of one byte are left together. -/
def cutBlocks (block : Nat) : Nat × Nat → List (Nat × Nat)
  | (low, high) =>
    if low < 0x80 ∨ low / block = high / block then [(low, high)]
    else
      let start := (low + block - 1) / block * block
      let stop := (high + 1) / block * block
      (if low < start then [(low, start - 1)] else [])
        ++ (if start < stop then [(start, stop - 1)] else [])
        ++ (if stop ≤ high then [(stop, high)] else [])

/-- A range without the surrogates in the middle of it. -/
def cutSurrogates : Nat × Nat → List (Nat × Nat)
  | (low, high) =>
    if low < CharSet.firstSurrogate ∧ CharSet.lastSurrogate < high then
      [(low, CharSet.firstSurrogate - 1), (CharSet.lastSurrogate + 1, high)]
    else [(low, high)]

/-- The bytes of a code point. -/
def bytesOf (n : Nat) : List Nat :=
  (String.utf8EncodeChar (Char.ofNat n)).map UInt8.toNat

/-- The sequences of a range. -/
def sequencesOf (r : Nat × Nat) : List (List ByteRange) :=
  let pieces := lengthEnds.foldl (fun pieces n ↦ pieces.flatMap (cutAfter n)) (cutSurrogates r)
  let blocks := [64, 64 * 64, 64 * 64 * 64]
  let pieces := blocks.foldl (fun pieces b ↦ pieces.flatMap (cutBlocks b)) pieces
  pieces.map fun (low, high) ↦ (bytesOf low).zip (bytesOf high)

/-- The sequences of a set. -/
def CharSet.sequences (s : CharSet) : List (List ByteRange) :=
  s.ranges.flatMap sequencesOf

end RuleWatch.Regex
