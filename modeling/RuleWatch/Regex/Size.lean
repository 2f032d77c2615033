import RuleWatch.Regex.Normal
import RuleWatch.Regex.Utf8Range
import RuleWatch.Text.Utf8

/-!
# How large regular expressions are

A regular expression is run as a machine that reads byte by byte, one from the front and one from
the back of a text. In a machine every repetition is written out as often as it has to match, and
the memory that it takes is limited. So a short text can be an expression that is too large:
`Regex.isSmall` tells.
-/

namespace RuleWatch.Regex

/-- The end of a text from which a machine reads. -/
inductive Direction
  | forward
  | backward
  deriving DecidableEq, Repr

/-- The memory of a state. -/
def stateSize : Nat := 32

/-- The memory of one of the ways on from a state that has several. -/
def wayOn : Nat := 4

/-- The memory of one of the bytes or ranges of bytes that a state tells apart. -/
def rangeSize : Nat := 8

/-- The memory of a state with so many ways on. -/
def branchSize (ways : Nat) : Nat := stateSize + ways * wayOn

/-- The memory of a state that tells so many ranges of bytes apart. -/
def tableSize (ranges : Nat) : Nat := stateSize + ranges * rangeSize

/-! ## Sets -/

/-- What follows each range that sequences begin with, in order; sequences with the same first range
stand together. -/
def followers : List (List ByteRange) → List (List (List ByteRange))
  | (b :: bs) :: rest =>
    match rest, followers rest with
    | (b' :: _) :: _, first :: others =>
      if b = b' then (bs :: first) :: others else [bs] :: first :: others
    | _, others => [bs] :: others
  | _ => []

/-- What is still to be read at the states of a machine that reads one of the sequences, but for the
last state. The bound is the length of the sequences. -/
def states : Nat → List (List ByteRange) → List (List (List ByteRange))
  | 0, _ => []
  | length + 1, sequences =>
    sequences :: ((followers sequences).filter fun s ↦ s.any (!·.isEmpty)).flatMap (states length)

/-- The parts of a list that it begins with, but for the empty one. -/
def fronts : List ByteRange → List (List ByteRange)
  | [] => []
  | b :: bs => [b] :: (fronts bs).map (b :: ·)

/-- The most bytes that a character takes. -/
def maxLength : Nat := 4

/-- The memory of a machine that reads a character of a set. From the front, states that have the
same to read are one; from the back, each way on has states of its own but for the bytes that
sequences begin with. -/
def CharSet.size (s : CharSet) (d : Direction) : Nat :=
  if s.isAscii then stateSize + tableSize s.ranges.length
  else match d with
    | .forward =>
      stateSize + (states maxLength s.sequences).eraseDups.foldl (fun total rest ↦
        total + tableSize (followers rest).length) 0
    | .backward =>
      branchSize s.sequences.length + stateSize
        + (s.sequences.flatMap fronts).eraseDups.length * stateSize

/-! ## Lists of texts -/

/-- Texts, byte by byte: for each byte what follows it. A text that ends here closes what came
before it, so that the texts after it are kept apart. -/
inductive TextTree
  | node (closed : List (List (UInt8 × TextTree))) (current : List (UInt8 × TextTree))

namespace TextTree

def none : TextTree := node [] []

/-- The tree of one text, that ends where it has been read. -/
def ofBytes : Bytes → TextTree
  | [] => node [[]] []
  | b :: bs => node [] [(b, ofBytes bs)]

mutual

/-- The tree with one more text. -/
def add : TextTree → Bytes → TextTree
  | node closed current, [] =>
    if current.isEmpty && !closed.isEmpty && closed.all List.isEmpty then node closed current
    else node (closed ++ [current]) []
  | node closed current, b :: bs => node closed (addBelow current b bs)

/-- The followers of bytes with a text added. -/
def addBelow : List (UInt8 × TextTree) → UInt8 → Bytes → List (UInt8 × TextTree)
  | [], b, bs => [(b, ofBytes bs)]
  | (b', tree) :: rest, b, bs =>
    if b' = b then (b', tree.add bs) :: rest else (b', tree) :: addBelow rest b bs

end

mutual

/-- The memory of the states of a tree; where texts only end, there are none. -/
def size : TextTree → Nat
  | node closed current =>
    if closed.all List.isEmpty && current.isEmpty then 0
    else
      let groups := (current :: closed).filter (!·.isEmpty)
      let tables := groups.foldl (fun total g ↦
        total + if g.length = 1 then stateSize else tableSize g.length) 0
      tables + branchSize (groups.length + closed.length) + sizeOfGroups closed
        + sizeOfGroup current

/-- The memory of what follows the bytes of all groups. -/
def sizeOfGroups : List (List (UInt8 × TextTree)) → Nat
  | [] => 0
  | g :: gs => sizeOfGroup g + sizeOfGroups gs

/-- The memory of what follows the bytes of a group. -/
def sizeOfGroup : List (UInt8 × TextTree) → Nat
  | [] => 0
  | (_, tree) :: rest => tree.size + sizeOfGroup rest

end

end TextTree

/-- The bytes of a text in the order in which they are read. -/
def bytesFrom (d : Direction) (cs : List Char) : Bytes :=
  let bytes := cs.flatMap String.utf8EncodeChar
  match d with
  | .forward => bytes
  | .backward => bytes.reverse

/-! ## Expressions -/

namespace Normal

/-- The characters of a text. -/
def text? : Normal → Option (List Char)
  | text cs => some cs
  | _ => none

/-- The memory of a repetition of something that takes `inner`. What must be there is written once
for each time, and what may be there with a branch before it. -/
def repeatedSize (least : Nat) (most : Option Nat) (canBeEmpty : Bool) (inner : Nat) : Nat :=
  match least, most with
  | 0, some 1 => branchSize 2 + inner + stateSize
  | 0, none => if canBeEmpty then inner + 2 * branchSize 2 + stateSize else branchSize 2 + inner
  | least, none => least * inner + branchSize 2
  | least, some most =>
    if least = most then least * inner
    else (if least = 0 then stateSize else least * inner) + stateSize
      + (most - least) * (branchSize 2 + inner)

mutual

/-- The memory of the states for an expression. What a group matches is kept from the front only. -/
def size (d : Direction) : Normal → Nat
  | empty | look _ => stateSize
  | text cs => (bytesFrom d cs).length * stateSize
  | set s _ => s.size d
  | capture _ inner => size d inner + if d = .forward then 2 * stateSize else 0
  | repeated least most _ inner =>
    repeatedSize least most (!inner.leastLength?.any (0 < ·)) (size d inner)
  | concat parts => totalSize d parts
  | alternatives parts =>
    match parts.mapM text? with
    | some texts =>
      stateSize + (texts.foldl (fun tree cs ↦ tree.add (bytesFrom d cs)) TextTree.none).size
    | none => branchSize parts.length + stateSize + totalSize d parts

/-- The memory of the states for all of them. -/
def totalSize (d : Direction) : List Normal → Nat
  | [] => 0
  | part :: parts => size d part + totalSize d parts

end

mutual

/-- A condition holds at the place from which the expression is read, wherever it matches. -/
def opensWith (d : Direction) (condition : Look) : Normal → Bool
  | look l => l == condition
  | capture _ inner => opensWith d condition inner
  | repeated least _ _ inner => least != 0 && opensWith d condition inner
  | concat parts => match d with
    | .forward => firstOpens d condition parts
    | .backward => (lastOpens d condition parts).1
  | alternatives parts => allOpen d condition parts
  | _ => false

/-- The condition holds at the start of one of the first parts, up to the one that can match more
than the empty text. -/
def firstOpens (d : Direction) (condition : Look) : List Normal → Bool
  | [] => false
  | part :: parts =>
    opensWith d condition part || (part.matchesOnlyEmpty && firstOpens d condition parts)

/-- The condition holds at the end of one of the last parts, up to the one that can match more than
the empty text; and whether no part can. -/
def lastOpens (d : Direction) (condition : Look) : List Normal → Bool × Bool
  | [] => (false, true)
  | part :: parts =>
    let (opens, onlyEmpty) := lastOpens d condition parts
    (opens || (onlyEmpty && opensWith d condition part), onlyEmpty && part.matchesOnlyEmpty)

/-- The condition holds at the place from which any of them is read. -/
def allOpen (d : Direction) (condition : Look) : List Normal → Bool
  | [] => true
  | part :: parts => opensWith d condition part && allOpen d condition parts

end

/-- The memory of the states by which a machine passes over what stands before a match. -/
def searchSize (d : Direction) (e : Normal) : Nat :=
  let condition := match d with
    | .forward => Look.textStart
    | .backward => Look.textEnd
  if opensWith d condition e then stateSize else branchSize 2 + stateSize + tableSize 1

/-- The memory of a machine: to search, to match, and to say what matched. -/
def machineSize (d : Direction) (e : Normal) : Nat :=
  searchSize d e + size d (.capture 0 e) + stateSize

/-- The number of texts from which on a list of them is searched without a machine. -/
def longList : Nat := 3000

/-- The expression is a long list of texts. -/
def isLongList : Normal → Bool
  | alternatives parts => longList ≤ parts.length && parts.all fun p ↦ p.text?.isSome
  | _ => false

end Normal

/-- The memory that a machine may take. -/
def maxSize : Nat := 10 * 1024 * 1024

/-- The machines for the expression do not take too much memory. -/
def isSmall (e : Regex) : Bool :=
  let n := e.normal
  n.isLongList || (n.machineSize .forward ≤ maxSize && n.machineSize .backward ≤ maxSize)

end RuleWatch.Regex
