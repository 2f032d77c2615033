import RuleWatch.Http.Message
import RuleWatch.Work.Basic

/-!
# Trace ids

Every request has a trace id, under which the journal and the response speak of it. A client may
give one, if it is short and plain; otherwise it is made of random bytes.
-/

namespace RuleWatch.Http.Trace

/-- The header that carries the trace id, in both directions. -/
def header : String := "x-trace-id"

/-- How long a trace id of a client may be. -/
def maxLength : Nat := 64

/-- A byte of a plain trace id: an ASCII letter, a digit, a hyphen or an underscore. -/
def isPlain (b : UInt8) : Bool :=
  let n := b.toNat
  (0x30 ≤ n && n ≤ 0x39) || (0x41 ≤ n && n ≤ 0x5A) || (0x61 ≤ n && n ≤ 0x7A)
    || n == 0x2D || n == 0x5F

/-- The text of plain bytes. -/
def ofPlain (value : Bytes) : String :=
  String.ofList (value.map fun b ↦ Char.ofNat b.toNat)

/-- The trace id that a client gives. -/
def inbound? (r : Request) : Option String :=
  match r.header? header with
  | none => none
  | some value =>
    if 1 ≤ value.length && value.length ≤ maxLength && value.all isPlain then
      some (ofPlain value)
    else none

/-- A digit in base sixteen. -/
def hexDigit (n : Nat) : Char :=
  if n < 10 then Char.ofNat ('0'.toNat + n) else Char.ofNat ('a'.toNat + (n - 10))

/-- The two digits of a byte. -/
def hexPair (b : UInt8) : List Char :=
  [hexDigit (b.toNat / 16), hexDigit (b.toNat % 16)]

/-- The trace id that random bytes make. -/
def ofRandom (bytes : Vector UInt8 drawLength) : String :=
  String.ofList (bytes.toList.flatMap hexPair)

/-- The trace id of a request. -/
def ofRequest (r : Request) : Work String := do
  match inbound? r with
  | some id => return id
  | none => return ofRandom (← Work.perform .random)

end RuleWatch.Http.Trace
