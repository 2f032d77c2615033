import RuleWatch.Json.Numeral
import RuleWatch.Json.Outline
import RuleWatch.Text.Digit
import RuleWatch.Text.Utf8

/-!
# Scanning JSON texts

One pass over the bytes of a text that ends in its outline. The containers that are open are held
in a stack, each with what it holds so far; a byte either moves the scan on or breaks the text, and
after a break nothing is read any more.
-/

namespace RuleWatch.Json

/-- A container part way through, with what it holds so far, last first. An open object knows the
key whose value is being read. -/
inductive Open
  | array (items : List Outline)
  | object (entries : List Entry) (key : Option String)
  /-- An object with something else than a string in the place of a key, which breaks the text as
  soon as it has been read. -/
  | keyless (entries : List Entry)

/-- The stack of open containers, innermost first, when the text breaks at `value`. -/
def breakOff (value : Outline) : List Open → Outline
  | [] => value
  | .array items :: stack => breakOff (.array (value :: items).reverse false) stack
  | .object entries key :: stack =>
    breakOff (.object (Outline.entry key value :: entries).reverse false) stack
  | .keyless entries :: stack =>
    breakOff (.object ((none, value) :: entries).reverse false) stack

/-- Where in a numeral the scan stands. -/
inductive NumeralPart
  | sign | zero | whole | point | fraction | mark | expSign | exp
  deriving DecidableEq

/-- A numeral part way through; digits are last first. -/
structure OpenNumeral where
  part : NumeralPart
  negative : Bool
  whole : List Char
  fraction : Option (List Char)
  exp : Option (Bool × List Char)

namespace OpenNumeral

/-- A numeral that begins with this character. -/
def start? (c : Char) : Option OpenNumeral :=
  if c = '-' then some ⟨.sign, true, [], none, none⟩
  else if c = '0' then some ⟨.zero, false, [c], none, none⟩
  else if c.isDigit then some ⟨.whole, false, [c], none, none⟩
  else none

/-- The numeral may end here. -/
def mayEnd (n : OpenNumeral) : Bool :=
  n.part == .zero || n.part == .whole || n.part == .fraction || n.part == .exp

/-- The numeral with one more character, if it goes on with it. -/
def next? (n : OpenNumeral) (c : Char) : Option OpenNumeral :=
  let digit := c.isDigit
  let fraction := n.fraction.getD []
  let (negative, digits) := n.exp.getD (false, [])
  match n.part with
  | .sign =>
    if c = '0' then some { n with part := .zero, whole := [c] }
    else if digit then some { n with part := .whole, whole := [c] } else none
  | .zero | .whole =>
    if digit && n.part == .whole then some { n with whole := c :: n.whole }
    else if c = '.' then some { n with part := .point }
    else if c = 'e' ∨ c = 'E' then some { n with part := .mark }
    else none
  | .point | .fraction =>
    if digit then some { n with part := .fraction, fraction := some (c :: fraction) }
    else if n.part == .fraction && (c = 'e' ∨ c = 'E') then some { n with part := .mark }
    else none
  | .mark =>
    if c = '+' then some { n with part := .expSign }
    else if c = '-' then some { n with part := .expSign, exp := some (true, []) }
    else if digit then some { n with part := .exp, exp := some (false, [c]) }
    else none
  | .expSign | .exp =>
    if digit then some { n with part := .exp, exp := some (negative, c :: digits) } else none

/-- A leading zero that is followed by a digit makes no numeral. -/
def isMalformedBy (n : OpenNumeral) (c : Char) : Bool :=
  n.part == .zero && c.isDigit

def toNumeral (n : OpenNumeral) : Numeral :=
  ⟨n.negative, n.whole.reverse, n.fraction.map List.reverse,
    n.exp.map fun (negative, digits) ↦ (negative, digits.reverse)⟩

def outline (n : OpenNumeral) : Outline :=
  .number n.toNumeral.value?

end OpenNumeral

/-- Where in a string the scan stands. -/
inductive StringPart
  | plain
  | escape
  | hex (left : Nat) (value : Nat)

/-- A string part way through: its bytes, last first, whether the escapes so far spell characters,
and the first half of a pair of escapes that waits for the second. -/
structure OpenString where
  part : StringPart
  bytes : Bytes
  spelled : Bool
  half : Option Nat

namespace OpenString

def empty : OpenString := ⟨.plain, [], true, none⟩

/-- The half pair given up, because no second half follows. -/
def settle (s : OpenString) : OpenString :=
  { s with part := .plain, spelled := s.spelled && s.half.isNone, half := none }

def push (s : OpenString) (b : UInt8) : OpenString :=
  let s := s.settle
  { s with bytes := b :: s.bytes }

def pushChar (s : OpenString) (n : Nat) : OpenString :=
  { s with
    bytes := (Text.toBytes (String.singleton (Char.ofNat n))).reverse ++ s.bytes }

/-- An escaped code unit of sixteen bits, alone or as half of a pair. -/
def pushUnit (s : OpenString) (unit : Nat) : OpenString :=
  match s.half with
  | some high =>
    if 0xDC00 ≤ unit ∧ unit ≤ 0xDFFF then
      pushChar { s with part := .plain, half := none }
        (0x10000 + (high - 0xD800) * 0x400 + (unit - 0xDC00))
    else { s with part := .plain, spelled := false, half := none }
  | none =>
    if 0xD800 ≤ unit ∧ unit ≤ 0xDBFF then { s with part := .plain, half := some unit }
    else if 0xDC00 ≤ unit ∧ unit ≤ 0xDFFF then { s with part := .plain, spelled := false }
    else pushChar { s with part := .plain } unit

/-- The byte that an escape of one letter stands for. -/
def simpleEscape? (c : Char) : Option UInt8 :=
  match c with
  | '"' => some 0x22
  | '\\' => some 0x5C
  | '/' => some 0x2F
  | 'b' => some 0x08
  | 'f' => some 0x0C
  | 'n' => some 0x0A
  | 'r' => some 0x0D
  | 't' => some 0x09
  | _ => none

/-- The text of a finished string, if it spells one. -/
def text? (s : OpenString) : Option String :=
  let s := s.settle
  if s.spelled then Text.ofBytes? s.bytes.reverse else none

/-- What one byte does to an open string. -/
inductive Next
  | more (s : OpenString)
  | closed (text : Option String)
  | broken

/-- One more byte of a string. A control character is no part of a string. -/
def next (s : OpenString) (b : UInt8) : Next :=
  let c := Char.ofNat b.toNat
  match s.part with
  | .plain =>
    if c = '"' then .closed s.text?
    else if c = '\\' then .more { s with part := .escape }
    else if b < 0x20 then .broken
    else .more (s.push b)
  | .escape =>
    if c = 'u' then .more { s with part := .hex 4 0 }
    else match simpleEscape? c with
      | some e => .more (s.push e)
      | none => .broken
  | .hex left value =>
    match Text.digitValue? 16 c with
    | none => .broken
    | some d =>
      if left ≤ 1 then .more (s.pushUnit (value * 16 + d))
      else .more { s with part := .hex (left - 1) (value * 16 + d) }

end OpenString

/-- Where a scan stands. -/
inductive Scan
  /-- A value comes next; right after a bracket the container may close instead. -/
  | atValue (mayClose : Bool) (stack : List Open)
  /-- A key comes next; right after a brace the object may close instead. -/
  | atKey (mayClose : Bool) (entries : List Entry) (stack : List Open)
  | atColon (entries : List Entry) (key : Option String) (stack : List Open)
  /-- A value has ended inside the innermost container. -/
  | afterValue (stack : List Open)
  | inWord (left : List Char) (value : Outline) (stack : List Open)
  | inNumeral (n : OpenNumeral) (stack : List Open)
  | inString (s : OpenString) (stack : List Open)
  | inKey (s : OpenString) (entries : List Entry) (stack : List Open)
  /-- The value is complete, and only blanks may follow. -/
  | done (value : Outline)
  /-- The text is broken; what there is of the value, which may be all of it. -/
  | halted (value : Outline)

namespace Scan

/-- The scan of a text from its start. -/
def start : Scan := .atValue false []

/-- A value has been read. -/
def feed (value : Outline) : List Open → Scan
  | [] => .done value
  | .array items :: stack => .afterValue (.array (value :: items) :: stack)
  | .object entries key :: stack =>
    .afterValue (.object (Outline.entry key value :: entries) key :: stack)
  | .keyless entries :: stack => .halted (breakOff value (.keyless entries :: stack))

/-- The text breaks where the innermost container waits for more, or for its end. -/
def haltAfter : List Open → Scan
  | [] => .halted .broken
  | .array items :: stack => .halted (breakOff (.array items.reverse false) stack)
  | .object entries _ :: stack | .keyless entries :: stack =>
    .halted (breakOff (.object entries.reverse false) stack)

/-- The text breaks where a value should be. -/
def haltValue (stack : List Open) : Scan :=
  .halted (breakOff .broken stack)

/-- The blanks that JSON allows between tokens. -/
def isBlank (b : UInt8) : Bool :=
  b == 0x20 || b == 0x09 || b == 0x0A || b == 0x0D

/-- The first byte of a value. -/
def openValue (b : UInt8) (stack : List Open) : Scan :=
  let c := Char.ofNat b.toNat
  match c with
  | '[' => .atValue true (.array [] :: stack)
  | '\x7b' => .atKey true [] stack
  | '"' => .inString .empty stack
  | 'n' => .inWord ['u', 'l', 'l'] .null stack
  | 't' => .inWord ['r', 'u', 'e'] (.bool true) stack
  | 'f' => .inWord ['a', 'l', 's', 'e'] (.bool false) stack
  | _ => match OpenNumeral.start? c with
    | some n => .inNumeral n stack
    | none => haltValue stack

/-- A byte where a container that holds something goes on or ends. -/
def goOn (b : UInt8) : List Open → Scan
  | .array items :: stack =>
    if b = 0x2C then .atValue false (.array items :: stack)
    else if b = 0x5D then feed (.array items.reverse true) stack
    else haltAfter (.array items :: stack)
  | .object entries key :: stack =>
    if b = 0x2C then .atKey false entries stack
    else if b = 0x7D then feed (.object entries.reverse true) stack
    else haltAfter (.object entries key :: stack)
  | stack => haltAfter stack

/-- A byte that is no part of the token before it. -/
def between (b : UInt8) : Scan → Scan
  | .afterValue stack => if isBlank b then .afterValue stack else goOn b stack
  | .done value => if isBlank b then .done value else .halted value
  | s => s

/-- One more byte. -/
def next (s : Scan) (b : UInt8) : Scan :=
  match s with
  | .atValue mayClose stack =>
    if isBlank b then s
    else if mayClose && b == 0x5D then goOn b stack
    else openValue b stack
  | .atKey mayClose entries stack =>
    if isBlank b then s
    else if b = 0x22 then .inKey .empty entries stack
    else if mayClose && b == 0x7D then feed (.object entries.reverse true) stack
    else openValue b (.keyless entries :: stack)
  | .atColon entries key stack =>
    if isBlank b then s
    else if b = 0x3A then .atValue false (.object entries key :: stack)
    else haltValue (.object entries key :: stack)
  | .inWord left value stack =>
    match left with
    | [] => between b (feed value stack)
    | c :: left =>
      if b.toNat ≠ c.toNat then haltValue stack
      else if left.isEmpty then feed value stack
      else .inWord left value stack
  | .inNumeral n stack =>
    let c := Char.ofNat b.toNat
    match n.next? c with
    | some n => .inNumeral n stack
    | none =>
      if n.mayEnd && !n.isMalformedBy c then between b (feed n.outline stack)
      else haltValue stack
  | .inString s stack =>
    match s.next b with
    | .more s => .inString s stack
    | .closed text => feed (.string text) stack
    | .broken => haltValue stack
  | .inKey s entries stack =>
    match s.next b with
    | .more s => .inKey s entries stack
    | .closed text => .atColon entries text stack
    | .broken => .halted (breakOff (.object entries.reverse false) stack)
  | .afterValue _ | .done _ => between b s
  | .halted _ => s

/-- The outline at the end of the text, and whether the text is JSON to its end. -/
def finish : Scan → Outline × Bool
  | .atValue _ stack => (breakOff .broken stack, false)
  | .atKey _ entries stack => (breakOff (.object entries.reverse false) stack, false)
  | .atColon entries key stack => (breakOff .broken (.object entries key :: stack), false)
  | .afterValue stack => match haltAfter stack with
    | .halted value => (value, false)
    | _ => (.broken, false)
  | .inWord _ _ stack | .inString _ stack => (breakOff .broken stack, false)
  | .inNumeral n stack =>
    if n.mayEnd then match feed n.outline stack with
      | .done value => (value, true)
      | .afterValue stack => match haltAfter stack with
        | .halted value => (value, false)
        | _ => (.broken, false)
      | .halted value => (value, false)
      | _ => (.broken, false)
    else (breakOff .broken stack, false)
  | .inKey _ entries stack => (breakOff (.object entries.reverse false) stack, false)
  | .done value => (value, true)
  | .halted value => (value, false)

end Scan

/-- The outline of a text, and whether it is JSON from its start to its end. -/
def scan (bytes : Bytes) : Outline × Bool :=
  (bytes.foldl Scan.next .start).finish

end RuleWatch.Json
