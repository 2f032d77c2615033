import RuleWatch.Store.Address.Authority
import RuleWatch.Store.Address.Settings
import RuleWatch.Text.Path

/-!
# Where a store is

A store is kept in a file, or in memory only; which of them is said by an address, together with
what may be done when the file is not there. An address can have a password in it, which must not
be written down: `redact` puts stars in its place.
-/

namespace RuleWatch.Store.Address

open Text

/-! ## Passwords -/

/-- The address with stars for the password, if there is one: what stands between the first colon
after the scheme and the last at sign. -/
def redacted? (address : List Char) : Option (List Char) := do
  let (scheme, rest) ← splitFirst? "://".toList address
  let (login, host) ← splitLast? '@' rest
  let (user, _) ← splitFirst? [':'] login
  return scheme ++ "://".toList ++ user ++ ":***@".toList ++ host

/-- The address as it may be written down. -/
def redact (address : String) : String :=
  match redacted? address.toList with
  | some shown => String.ofList shown
  | none => address

/-! ## Addresses -/

/-- The characters of an address that count in it as a whole: no blanks around it, and no ends of
lines or tabs at all. -/
def significant (address : List Char) : List Char :=
  let isAround (c : Char) := c ≤ ' '
  let trimmed := ((address.dropWhile isAround).reverse.dropWhile isAround).reverse
  trimmed.filter fun c ↦ !"\t\n\r".toList.contains c

/-- The address is one of a store that is kept in a file or in memory. -/
def isWellFormed (address : List Char) : Bool :=
  match splitFirst? [':'] (significant address) with
  | some (scheme, rest) =>
    scheme.map Char.toLower == "sqlite".toList &&
      (!"//".toList.isPrefixOf rest || startsWithAuthority (rest.drop 2))
  | none => false

/-- The text without the mark at its start, however often it stands there. -/
def withoutMarks (mark cs : List Char) : List Char :=
  if mark ≠ [] ∧ mark.isPrefixOf cs then withoutMarks mark (cs.drop mark.length) else cs
termination_by cs.length
decreasing_by
  rename_i h
  have := (List.isPrefixOf_iff_prefix.1 h.2).length_le
  have := List.length_pos_iff.2 h.1
  grind

/-- The name of the file, and the text of the parameters. -/
def parts (address : List Char) : List Char × List Char :=
  let rest := withoutMarks "sqlite:".toList (withoutMarks "sqlite://".toList address)
  (rest.takeWhile (· != '?'), (rest.dropWhile (· != '?')).drop 1)

/-- The name of the file and the settings that an address says. -/
def settings? (address : List Char) : Option (String × Settings) := do
  let (name, params) := parts address
  let params := Http.Form.ofText (String.ofList params)
  if name = ":memory:".toList then
    let s ← params.foldlM Settings.withParam { inMemory := true }
    s.ofName? ""
  else
    let file ← ofBytes? (Percent.decode (toBytes (String.ofList name)))
    let s ← params.foldlM Settings.withParam {}
    s.ofName? file

/-! ## Places -/

/-- Where a store is kept. -/
inductive Place
  /-- In memory, or in a file that nothing else knows of. -/
  | memory
  /-- In a file, which may be made if it is not there. -/
  | file (path : Path) (mayCreate : Bool)
  deriving DecidableEq, Repr

/-- The drivers that there are. The last one keeps everything in memory. -/
def drivers : List String :=
  ["unix", "unix-none", "unix-dotfile", "unix-excl", "memdb"]

/-- The place for the settings and the name of a file. A store is written to, and so it cannot be
one that must not be. -/
def Place.of? (name : String) (s : Settings) : Option Place :=
  if s.access = .read || !s.driver.all drivers.contains then none
  else if s.inMemory || name = "" || name = ":memory:" then some .memory
  else if s.isFixed then none
  else if s.driver = some "memdb" then some .memory
  else some (.file (Path.ofChars name.toList).resolved (s.access = .create))

/-- The place that an address names. -/
def place? (address : String) : Option Place := do
  if !isWellFormed address.toList then none
  let (name, s) ← settings? address.toList
  Place.of? name s

/-- The directory that is made before a store is opened, if the address asks for one. -/
def directory? (address : String) : Option Path :=
  let mark := "sqlite://".toList
  let name := (address.toList.drop mark.length).takeWhile (· != '?')
  let directory := (Path.ofChars name).parent
  if mark.isPrefixOf address.toList && name.head? != some ':' && !directory.isHere then
    some directory
  else none

/-! ## Opening -/

/-- What is known about the files around, by the texts of their paths. -/
structure Files where
  isFile : String → Bool
  isDirectory : String → Bool
  /-- The directory is there, or it can be made. -/
  canHaveDirectory : String → Bool

/-- Nothing is there, and nothing can be made. -/
def Files.none : Files where
  isFile := fun _ ↦ false
  isDirectory := fun _ ↦ false
  canHaveDirectory := fun _ ↦ false

/-- A store can be opened at a place, after a directory was made. -/
def Place.opens (files : Files) (made : Option Path) : Place → Bool
  | .memory => true
  | .file path mayCreate =>
    let folder := path.parent
    path.canBeFile && !files.isDirectory path.toText
      && (folder.isHere || made.any (·.resolved == folder) || files.isDirectory folder.toText)
      && (mayCreate || files.isFile path.toText)

/-- A store can be opened at an address. -/
def opens (files : Files) (address : String) : Bool :=
  (directory? address).all (fun d ↦ files.canHaveDirectory d.toText)
    && (place? address).any fun place ↦ place.opens files (directory? address)

end RuleWatch.Store.Address
