import RuleWatch.Http.Target
import RuleWatch.Text.Ipv6

/-!
# Authorities

What stands in an address after two slashes: a login and an at sign, the name of a host, and a colon
and a port. Each of them can be left out, but a login or a port needs a host.
-/

namespace RuleWatch.Store.Address

open Text

/-- A character that the name of a host cannot have. -/
def isForbiddenInHost (c : Char) : Bool :=
  c == '\x00' || "\t\n\r #/:<>?@[\\]^|".toList.contains c

/-- A host: a name, or a number between brackets. -/
def isHost : List Char → Bool
  | '[' :: cs => cs.getLast? == some ']' && isIpv6 cs.dropLast
  | cs => !cs.any isForbiddenInHost

/-- The host, and what follows it from the first colon that is not between brackets. -/
def splitHost (between : Bool) : List Char → List Char × List Char
  | [] => ([], [])
  | c :: cs =>
    if c = ':' ∧ !between then ([], c :: cs)
    else
      let (host, rest) := splitHost (c == '[' || between && c != ']') cs
      (c :: host, rest)

/-- A port after its colon. What follows a backslash does not count. -/
def isPort (cs : List Char) : Bool :=
  let digits := cs.takeWhile Char.isDigit
  let rest := cs.drop digits.length
  (ofDigits? 10 digits).all (· < 65536) && (rest.isEmpty || rest.head? == some '\\')

/-- A host with a port or without. An empty one must not be needed. -/
def isPlace (isNeeded : Bool) (cs : List Char) : Bool :=
  match splitHost false cs with
  | (host, []) => isHost host && !(host.isEmpty && isNeeded)
  | (host, _ :: port) => isHost host && isPort port && !host.isEmpty

/-- What stands before the first slash, question mark or number sign after the two slashes is an
authority. An at sign with nothing before it asks for something after it. -/
def startsWithAuthority (rest : List Char) : Bool :=
  let authority := rest.takeWhile fun c ↦ !Http.Target.endsAuthority c
  match splitLast? '@' authority with
  | none => isPlace false authority
  | some ([], place) => isPlace (rest.length != authority.length) place
  | some (login, place) => isPlace (login != [':']) place

end RuleWatch.Store.Address
