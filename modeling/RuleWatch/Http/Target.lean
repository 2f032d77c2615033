import RuleWatch.Text.Split

/-!
# Targets of requests

What a request is about. A target is a resource by itself, which starts with a slash or is a star;
or a resource of a server, which stands after the scheme and the authority of that server; or an
authority alone, with no resource. A resource is a path and, after a question mark, a form. What
follows a number sign is not part of it.
-/

namespace RuleWatch.Http.Target

/-- A character of the name of a scheme. -/
def isSchemeChar (c : Char) : Bool :=
  c.isAlphanum || "+-.~".toList.contains c

/-- What follows the scheme, if there is one. -/
def afterScheme? (target : List Char) : Option (List Char) := do
  let (scheme, rest) ← Text.splitFirst? "://".toList target
  if scheme.all isSchemeChar then some rest else none

/-- A character that ends an authority. -/
def endsAuthority (c : Char) : Bool :=
  c == '/' || c == '?' || c == '#'

/-- The path and the form of a target as they are written, unless it is an authority alone. -/
def resource? (target : List Char) : Option (List Char) :=
  let written := (· != '#')
  match target with
  | '/' :: _ | ['*'] => some (target.takeWhile written)
  | _ => (afterScheme? target).map fun rest ↦
    (rest.dropWhile fun c ↦ !endsAuthority c).takeWhile written

/-- A slash stands for nothing at all. -/
def orRoot (cs : List Char) : List Char :=
  if cs.isEmpty then ['/'] else cs

/-- The path and the form. -/
def full (target : List Char) : List Char :=
  match resource? target with
  | some resource => orRoot resource
  | none => []

/-- The path. -/
def path (target : List Char) : List Char :=
  match resource? target with
  | some resource => orRoot (resource.takeWhile (· != '?'))
  | none => []

/-- The form after the path, without its question mark. -/
def form (target : List Char) : List Char :=
  ((full target).dropWhile (· != '?')).drop 1

end RuleWatch.Http.Target
