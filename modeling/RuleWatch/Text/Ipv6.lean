import RuleWatch.Text.Digit

/-!
# Addresses of machines

An address of the sixth version is eight groups of up to four digits in base sixteen, with colons
between them. Two colons stand once for as many groups of zeros as there is room for, at least one.
The last two groups can be written as an address of the fourth version, which is four numbers below
256 without leading zeros, with dots between them.
-/

namespace RuleWatch.Text

/-- A number below 256 without leading zeros. -/
def isOctet (digits : List Char) : Bool :=
  (ofDigits? 10 digits).any (· < 256) && (digits.length == 1 || digits.head? != some '0')

/-- So many numbers below 256, with dots between them. -/
def areOctets : Nat → List Char → Bool
  | 0, _ => false
  | n + 1, cs =>
    isOctet (cs.takeWhile Char.isDigit) &&
      match cs.dropWhile Char.isDigit with
      | [] => n == 0
      | '.' :: rest => areOctets n rest
      | _ => false

/-- The groups that are left of an address with room for so many of them, when two colons have
stood before or not. -/
def areGroups : Nat → Bool → List Char → Bool
  | room, squeezed, [] => squeezed || room == 0
  | 0, _, _ :: _ => false
  | room + 1, squeezed, c :: cs =>
    if c = ':' then !squeezed && areGroups room true cs
    else
      let digits := ((c :: cs).take 4).takeWhile fun d ↦ (digitValue? 16 d).isSome
      match (c :: cs).drop digits.length with
      | [] => areGroups room squeezed []
      | ':' :: rest => !rest.isEmpty && areGroups room squeezed rest
      | '.' :: _ =>
        !digits.isEmpty && areOctets 4 (c :: cs) && (room == 1 || squeezed && room != 0)
      | _ => false

/-- The text is an address of the sixth version. -/
def isIpv6 : List Char → Bool
  | ':' :: ':' :: cs => areGroups 7 true cs
  | ':' :: _ => false
  | cs => 2 ≤ cs.length && areGroups 8 false cs

end RuleWatch.Text
