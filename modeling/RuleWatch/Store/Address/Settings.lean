import RuleWatch.Http.Form

/-!
# Settings of an address

How a store is to be opened, as the parameters of its address say it: what may be done with the
file, whether there is a file at all, and through which driver it is read and written. The name of
the file can be a URI, which has parameters of its own.
-/

namespace RuleWatch.Store.Address

open Text

/-! ## Settings -/

/-- What may be done with a file. -/
inductive Access
  | read
  | write
  /-- The file may also be made. -/
  | create
  deriving DecidableEq, Repr

/-- How much may be done, as a number. -/
def Access.rank : Access → Nat
  | read => 0
  | write => 1
  | create => 2

/-- The access of a name. -/
def Access.ofName? : String → Option Access
  | "ro" => some read
  | "rw" => some write
  | "rwc" => some create
  | _ => none

/-- The access when one is asked for after another. Reading only is not taken back. -/
def Access.andThen : Access → Access → Access
  | read, _ | _, read => read
  | create, _ | _, create => create
  | write, write => write

/-- How a store is to be opened. -/
structure Settings where
  access : Access := .write
  inMemory : Bool := false
  /-- The file is taken never to change. -/
  isFixed : Bool := false
  driver : Option String := none
  deriving DecidableEq, Repr

namespace Settings

/-- The settings with what one parameter of an address adds. -/
def withParam (s : Settings) : String × String → Option Settings
  | ("mode", "memory") => some { s with inMemory := true }
  | ("mode", name) => (Access.ofName? name).map fun access ↦
    { s with access := s.access.andThen access }
  | ("cache", "shared") | ("cache", "private") => some s
  | ("immutable", "true") | ("immutable", "1") => some { s with isFixed := true }
  | ("immutable", "false") | ("immutable", "0") => some { s with isFixed := false }
  | ("vfs", name) => some { s with driver := some name }
  | _ => none

/-! ## Names that are URIs -/

/-- What is before the first NUL. -/
def untilNul (s : String) : String :=
  String.ofList (s.toList.takeWhile (· != '\x00'))

/-- The settings with what one parameter of a URI adds. No more access is given than there is,
except to a store in memory. -/
def withUriParam (s : Settings) : String × String → Option Settings
  | ("vfs", name) => some { s with driver := some name }
  | ("cache", kind) => if kind = "shared" ∨ kind = "private" then some s else none
  | ("mode", "memory") => some { s with access := .write, inMemory := true }
  | ("mode", name) => do
    let access ← Access.ofName? name
    if s.inMemory || access.rank ≤ s.access.rank then some { s with access, inMemory := false }
    else none
  | _ => some s

/-- A word for what is the case. -/
def isYes (word : String) : Bool :=
  match word.toList with
  | [] => false
  | c :: cs =>
    if c.isDigit then
      ((ofDigits? 10 ((c :: cs).takeWhile Char.isDigit)).getD 0) % 256 != 0
    else ["on", "yes", "true"].contains (word.map Char.toLower)

/-- The parameters of a URI. Those without a key do not count. -/
def uriParams (text : List Char) : Http.Form :=
  ((Http.Form.ofText (String.ofList text)).map fun (key, value) ↦
    (untilNul key, untilNul value)).filter fun (key, _) ↦ key != ""

/-- What follows the authority of a URI, which can only be this machine. -/
def afterAuthority? : List Char → Option (List Char)
  | '/' :: '/' :: cs =>
    if ["", "localhost"].contains (String.ofList (cs.takeWhile (· != '/'))) then
      some (cs.dropWhile (· != '/'))
    else none
  | cs => some cs

/-- The name of the file and the settings that a URI says, after its scheme. -/
def ofUri? (s : Settings) (uri : List Char) : Option (String × Settings) := do
  let text := (← afterAuthority? uri).takeWhile (· != '#')
  let path := Percent.decode (toBytes (String.ofList (text.takeWhile (· != '?'))))
  let params := uriParams ((text.dropWhile (· != '?')).drop 1)
  let s ← params.foldlM withUriParam s
  let isFixed := (params.lookup "immutable").any isYes
  return (untilNul (ofBytesLossy path), { s with isFixed := s.isFixed || isFixed })

/-- The name of the file and the settings that a name says. A name that comes with a driver, or
with a file that does not change, is no URI. -/
def ofName? (s : Settings) (name : String) : Option (String × Settings) :=
  if s.isFixed || s.driver.isSome then
    some (untilNul name, { s with driver := s.driver.map untilNul })
  else if name.toList.contains '\x00' then none
  else if "file:".toList.isPrefixOf name.toList then s.ofUri? (name.toList.drop 5)
  else some (name, s)

end Settings

end RuleWatch.Store.Address
