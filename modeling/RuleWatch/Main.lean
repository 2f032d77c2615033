import RuleWatch.CommandLine

/-!
# The command

Finds out what is around the command, and ends as the command comes out. There is nothing here that
could listen on a port, so that a start goes no further than to that.
-/

open RuleWatch

/-- The bytes of a file, if they can be read. -/
def contentOf (path : String) : IO (Option Bytes) := do
  try
    return some (← IO.FS.readBinFile path).toList
  catch _ => return none

/-- The directory is there, or it has been made now. -/
def makeDirectory (path : String) : IO Bool := do
  try
    IO.FS.createDirAll path
    return true
  catch _ => return false

/-- What is around the file in which a store is kept. -/
def filesAround (address : String) : IO Store.Address.Files := do
  let made ← match Store.Address.directory? address with
    | some directory => makeDirectory directory.toText
    | none => pure true
  let files := { Store.Address.Files.none with canHaveDirectory := fun _ ↦ made }
  match Store.Address.place? address with
  | some (.file path _) =>
    let here ← IO.currentDir
    let file := path.toText
    let folder := path.parent.toText
    let isDirectory ← (here / file).isDir
    let isFile := !isDirectory && (← (here / file).pathExists)
    let folderIsDirectory ← (here / folder).isDir
    return { files with
      isFile := fun p ↦ p == file && isFile
      isDirectory := fun p ↦ p == file && isDirectory || p == folder && folderIsDirectory }
  | _ => return files

/-- What is around the command that starts the server with the configuration in a file. -/
def surroundingsOf (path : String) : IO Command.Surroundings := do
  let content ← contentOf path
  let files ← match Config.load content with
    | .ok config => filesAround config.database.url
    | .error _ => pure .none
  return { Command.Surroundings.none with
    content := fun p ↦ if p = path then content else none
    files }

def main (args : List String) : IO UInt32 := do
  let command := Command.ofArgs args
  let around ← match command with
    | .help => pure .none
    | .start path => surroundingsOf path
  let outcome := command.run around
  (← IO.getStderr).putStr outcome.errorText
  return outcome.status.toUInt32
