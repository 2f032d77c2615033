/-!
# Paths

Where a file is: names with slashes between them, from the root or from the working directory. Two
dots for a name lead back to where the name before them stands; a dot, or nothing, leads nowhere.
-/

namespace RuleWatch.Text

/-- A path, with the names in order. -/
structure Path where
  fromRoot : Bool
  names : List (List Char)
  deriving DecidableEq, Repr

namespace Path

/-- The pieces between slashes, after the start of the first one, last character first. -/
def pieces (piece : List Char) : List Char → List (List Char)
  | [] => [piece.reverse]
  | c :: cs => if c = '/' then piece.reverse :: pieces [] cs else pieces (c :: piece) cs

/-- A name that leads nowhere. -/
def isIdle (name : List Char) : Bool :=
  name.isEmpty || name == ['.']

/-- The path that is written. -/
def ofChars (cs : List Char) : Path where
  fromRoot := cs.head? == some '/'
  names := (pieces [] cs).filter fun name ↦ !isIdle name

/-- The name that leads back. -/
def back : List Char := ['.', '.']

/-- One more name after names that stand last one first. -/
def follow (fromRoot : Bool) (before : List (List Char)) (name : List Char) :
    List (List Char) :=
  if name != back then name :: before
  else match before with
    | [] => if fromRoot then [] else [back]
    | last :: rest => if last == back then back :: last :: rest else rest

/-- The path without the names that lead back, as far as there are names before them. -/
def resolved (p : Path) : Path :=
  ⟨p.fromRoot, (p.names.foldl (follow p.fromRoot) []).reverse⟩

/-- The directory in which the path leads to something. -/
def parent (p : Path) : Path :=
  ⟨p.fromRoot, p.names.dropLast⟩

/-- The path is that of the working directory. -/
def isHere (p : Path) : Bool :=
  !p.fromRoot && p.names.isEmpty

/-- The path leads to something that can be a file. -/
def canBeFile (p : Path) : Bool :=
  p.names.getLast?.any (· != back)

/-- The text of a path. -/
def toText (p : Path) : String :=
  let names := String.intercalate "/" (p.names.map String.ofList)
  if p.fromRoot then "/" ++ names else if p.names.isEmpty then "." else names

end Path

end RuleWatch.Text
